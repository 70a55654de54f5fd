import MixUnits.Device

/-!
# The machine behind the channel

A machine has twenty-one numbered units, which may be empty, a memory and the files
behind its units.  The units 0 to 7 are meant for tapes, 8 to 15 for disks, and 16 to
20 for card reader, card punch, line printer, typewriter and paper tape.

Performing a request moves words between a unit and a window of memory.  The window
begins at the address of the request and has room for a block at least; a unit that
transfers more gets what there is.
-/

namespace MixUnits

/-- The number of units. -/
def unitCount : Nat := 21

namespace UnitNumber

/-- The first tape. -/
def tape : Nat := 0

/-- The first disk. -/
def disk : Nat := 8

/-- The card reader. -/
def cardReader : Nat := 16

/-- The line printer. -/
def linePrinter : Nat := 18

end UnitNumber

/-- The number of words in memory at the beginning. -/
def memorySize : Nat := 4000

/-- Units, memory and files. -/
structure Machine where
  units : Vector (Option Device) unitCount
  memory : Buffer
  files : FileSystem

namespace Machine

/-- A machine without devices, with a blank memory of the usual size. -/
def blank (files : FileSystem) : Machine where
  units := Vector.replicate unitCount none
  memory := Buffer.blank memorySize
  files := files

/-- The device attached to a unit, if there is one. -/
def device?
    (machine : Machine)
    (unit : Nat) :
    Option Device :=
  machine.units[unit]?.join

/-- Puts a device, or none, in the place of what a unit had. -/
def place
    (machine : Machine)
    (unit : Nat)
    (device? : Option Device) :
    Machine :=
  { machine with units := machine.units.setIfInBounds unit device? }

/-- Attaches a device to a unit, and tells whether there is such a unit. -/
def attach
    (machine : Machine)
    (unit : Nat)
    (device : Device) :
    Answer Machine :=
  if unit < unitCount then
    { accepted := true
      unit := machine.place unit (some device)
      notices := [] }
  else
    Answer.refused machine [.unitMissing unit]

/-- Whether the device of a unit is in the midst of a transfer. -/
def busy
    (machine : Machine)
    (now : UInt64)
    (unit : Nat) :
    Bool :=
  match machine.device? unit with
  | none => false
  | some device => device.busy now

/-- The window of memory of a transfer: from the address up to a later one. -/
def windowEnd?
    (machine : Machine)
    (device : Device)
    (address : Nat) :
    Option Nat :=
  if address + device.blockSize ≤ machine.memory.size then
    some (min (address + device.transferWords) machine.memory.size)
  else
    none

/-- A machine after a request, and whether the request was accepted. -/
abbrev Performed := Answer Machine

/-- Carries out an operation of the device of a unit. -/
def operate
    (machine : Machine)
    (now : UInt64)
    (request : Request)
    (device : Device) :
    Performed :=
  match request.operation with
  | .control mode =>
    (device.control mode).map fun unit => machine.place request.unit (some unit)
  | .input =>
    match machine.windowEnd? device request.address with
    | none =>
      Answer.refused machine [.windowOutside device.blockSize request.address]
    | some stop =>
      let received :=
        device.input now machine.files (machine.memory.slice request.address stop)
      received.toAnswer.map fun unit =>
        { machine.place request.unit (some unit) with
          memory := machine.memory.overlay request.address received.buffer }
  | .output =>
    match machine.windowEnd? device request.address with
    | none =>
      Answer.refused machine [.windowOutside device.blockSize request.address]
    | some stop =>
      let sent :=
        device.output now machine.files (machine.memory.slice request.address stop)
      sent.toAnswer.map fun unit =>
        { machine.place request.unit (some unit) with files := sent.files }

/-- Performs a request at once; one for an empty unit is refused. -/
def perform
    (machine : Machine)
    (now : UInt64)
    (request : Request) :
    Performed :=
  match machine.device? request.unit with
  | none => Answer.refused machine [.unitEmpty request.unit]
  | some device =>
    let performed := machine.operate now request device
    { performed with
      notices := performed.notices ++ [.requestEnded request performed.accepted] }

end Machine

end MixUnits
