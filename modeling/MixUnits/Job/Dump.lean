import MixUnits.Channel.Run

/-!
# Dump

The blocks of a tape or a disk are printed on the line printer, each on as many lines
as its words fill.  A disk is positioned on every block; a tape can only be spaced
forward by reading over the blocks before the first one.

A range of blocks that does not end below the largest machine word, or that holds a
disk block beyond the reach of a control mode, is not begun at all.
-/

namespace MixUnits

/-- The blocks to be printed and the file that stores them. -/
structure Dump where
  medium : Medium
  path : String
  start : Nat
  count : Nat
  deriving DecidableEq, Repr

namespace Dump

/-- One more than the largest number of a block. -/
def rangeLimit : Nat := 0x10000000000000000

/-- One more than the largest disk block that a control mode can name. -/
def modeLimit : Nat := 0x100000000

/-- The unit that holds a medium. -/
def unitOf : Medium → Nat
  | .tape => UnitNumber.tape
  | .disk => UnitNumber.disk

/-- A medium loaded from its backing file. -/
def mount
    (files : FileSystem)
    (path : String) :
    Medium → Device × List Notice
  | .tape => (Drive.mount files path).map .tape id
  | .disk => (Drive.mount files path).map .disk id

/-- The addresses at which the lines of a block begin. -/
def lineAddresses (geometry : Geometry) : List Nat :=
  (List.range geometry.blockSize).filter fun address =>
    address % printerGeometry.blockSize = 0

/-- The request to read the block under the cursor. -/
def readRequest (medium : Medium) : Request :=
  ⟨unitOf medium, .input, 0⟩

/-- The requests to print the lines of the block in memory. -/
def lineRequests (medium : Medium) : List Request :=
  (lineAddresses medium.geometry).map fun address =>
    ⟨UnitNumber.linePrinter, .output, address⟩

/-- The requests to read and print a block. -/
def blockRequests
    (medium : Medium)
    (block : Nat) :
    List Request :=
  let seeking :=
    match medium with
    | .tape => []
    | .disk => [⟨unitOf medium, .control (UInt32.ofNat block), 0⟩]
  seeking ++ readRequest medium :: lineRequests medium

/-- The requests to read over the blocks before the first one. -/
def spacing (dump : Dump) : List Request :=
  match dump.medium with
  | .tape => List.replicate dump.start (readRequest .tape)
  | .disk => []

/-- What keeps a range of blocks from being printed. -/
def obstacle? (dump : Dump) : Option Notice :=
  if rangeLimit ≤ dump.start + dump.count then
    some (.rangeOutside dump.count dump.start)
  else if dump.medium = .disk ∧ 0 < dump.count ∧ modeLimit < dump.start + dump.count then
    some (.blockUnaddressable (max dump.start modeLimit))
  else
    none

/-- All requests of a dump. -/
def requests (dump : Dump) : List Request :=
  dump.spacing ++
    (List.range' dump.start dump.count).flatMap (blockRequests dump.medium)

/-- A machine with the medium and a printer on a sink, and the notices of loading. -/
def machine
    (dump : Dump)
    (files : FileSystem)
    (sink : Sink) :
    Machine × List Notice :=
  let (medium, notices) := mount files dump.path dump.medium
  (((Machine.blank files).place UnitNumber.linePrinter
      (some (.linePrinter (.mount sink)))).place (unitOf dump.medium) (some medium),
    notices)

/-- The machine after a dump, and everything it reports. -/
def run
    (dump : Dump)
    (files : FileSystem)
    (sink : Sink) :
    Machine × List Notice :=
  let (machine, loading) := dump.machine files sink
  match dump.obstacle? with
  | some obstacle => (machine, loading ++ [obstacle])
  | none =>
    let run := (Channel.idle machine).run dump.requests
    (run.channel.machine, loading ++ run.notices)

end Dump

end MixUnits
