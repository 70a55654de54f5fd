/-!
# Requests

A request names a unit, an operation and the memory address where the transfer
begins.  A control operation carries a mode and ignores the address.
-/

namespace MixUnits

/-- What a unit can be asked to do. -/
inductive Operation where
  | input
  | output
  | control (mode : UInt32)
  deriving DecidableEq, Repr

/-- One operation for one unit. -/
structure Request where
  unit : Nat
  operation : Operation
  address : Nat
  deriving DecidableEq, Repr

/-- The written form of an operation. -/
def Operation.text : Operation → String
  | .input => "In"
  | .output => "Out"
  | .control mode => "Ioc(" ++ toString mode.toNat ++ ")"

/-- The written form of a request. -/
def Request.text (request : Request) : String :=
  "IoRequest \x7b unit: " ++ toString request.unit ++
    ", op: " ++ request.operation.text ++
    ", addr: " ++ toString request.address ++ " \x7d"

/-- The end of a request: when it was issued and whether the unit accepted it. -/
structure Completion where
  request : Request
  accepted : Bool
  issuedAt : UInt64
  deriving DecidableEq, Repr

end MixUnits
