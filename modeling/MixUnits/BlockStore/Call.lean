import MixUnits.Device.Answer

/-!
# Calls of a store

A store is read and written block by block, and a block outside is refused.  Its cursor can
be moved, a transfer can begin, and all of its words can be set from outside, to one word or
to those of an image.  Numbers that come from outside have 64 bits, and so have the sums that
are made of them.

A geometry is storable if its words fit into one array.  There is no store of another geometry:
either the words cannot be had at all, or their number is cut off to one that is too small.
-/

namespace MixUnits

namespace BlockStore

variable {geometry : Geometry}

/-- Reads a block into a buffer, or refuses a block that is outside. -/
def read
    (store : BlockStore geometry)
    (index : Nat)
    (buffer : Buffer) :
    Received (BlockStore geometry) :=
  let transfer := store.transferNotices index buffer.size
  match store.readBlock? index buffer with
  | none => (Answer.refused store transfer).received buffer
  | some filled =>
    { accepted := true
      unit := store
      notices := transfer
      buffer := filled }

/-- Writes a buffer to a block, or refuses a block that is outside. -/
def write
    (store : BlockStore geometry)
    (index : Nat)
    (buffer : Buffer) :
    Answer (BlockStore geometry) :=
  let transfer := store.transferNotices index buffer.size
  match store.writeBlock? index buffer with
  | none => Answer.refused store transfer
  | some written =>
    { accepted := true
      unit := written
      notices := transfer }

/-- What can be done to a store. -/
inductive Call where
  | setCursor (block : UInt64)
  | advance
  | markBusy (now latency : UInt64)
  | read (index : UInt64) (buffer : Buffer)
  | write (index : UInt64) (buffer : Buffer)
  | fill (word : Word)
  | load (image : Array UInt8)

/-- A store after a call. -/
def call
    (store : BlockStore geometry) :
    Call → BlockStore geometry
  | .setCursor block => store.setCursor block.toNat
  | .advance => store.advance
  | .markBusy now latency => store.markBusy now latency
  | .read index buffer => (store.read index.toNat buffer).unit
  | .write index buffer => (store.write index.toNat buffer).unit
  | .fill word => store.fill word
  | .load image => store.load image

/-- Whether a call makes a sum that does not fit into 64 bits. -/
def overflows
    (store : BlockStore geometry) :
    Call → Bool
  | .advance => UInt64.size ≤ store.cursor + 1
  | .markBusy now latency => geometry.outlasts now latency
  | .setCursor _ | .read .. | .write .. | .fill _ | .load _ => false

/-- A blank store after some calls. -/
def replay
    (geometry : Geometry)
    (calls : List Call) :
    BlockStore geometry :=
  calls.foldl call (blank geometry)

/-- A blank store after some calls by either arithmetic. -/
def replay?
    (arithmetic : Arithmetic)
    (geometry : Geometry)
    (calls : List Call) :
    Option (BlockStore geometry) :=
  arithmetic.replay? overflows call (blank geometry) calls

end BlockStore

/-- The bytes that a word takes in memory. -/
def wordBytes : Nat := 8

/-- The most bytes that one array can take. -/
def arrayLimit : Nat := 0x7FFFFFFFFFFFFFFF

namespace Geometry

/-- What it means that the words of all blocks fit into one array. -/
def IsStorable (geometry : Geometry) : Prop :=
  wordBytes * geometry.size ≤ arrayLimit

/--
The words of a new store.  Their number is a product of 64 bits, and there are none if they
do not fit into one array.
-/
def allocation?
    (arithmetic : Arithmetic)
    (geometry : Geometry) :
    Option Buffer :=
  (arithmetic.outcome? (UInt64.size ≤ geometry.size) (geometry.size % UInt64.size)).bind
    fun length =>
      if wordBytes * length ≤ arrayLimit then some (Buffer.blank length) else none

/-- By either arithmetic a storable geometry has all of its words. -/
theorem allocation?_of_isStorable
    {geometry : Geometry}
    (storable : geometry.IsStorable)
    (arithmetic : Arithmetic) :
    geometry.allocation? arithmetic = some (BlockStore.blank geometry).words := by
  have short : geometry.size < UInt64.size := by
    simp only [IsStorable, wordBytes, arrayLimit, UInt64.size] at storable ⊢
    omega
  have fits : decide (UInt64.size ≤ geometry.size) = false :=
    decide_eq_false (Nat.not_le_of_lt short)
  have all :
      arithmetic.outcome? (decide (UInt64.size ≤ geometry.size)) (geometry.size % UInt64.size) =
        some geometry.size := by
    rw [fits, Nat.mod_eq_of_lt short]
    cases arithmetic with
    | wrapping => rfl
    | checked => rfl
  rw [allocation?, all, Option.bind_some]
  exact if_pos storable

end Geometry

end MixUnits
