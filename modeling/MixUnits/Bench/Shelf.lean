import MixUnits.Bench.Blueprint
import MixUnits.Channel.Run

/-!
# The bench

On a bench devices are built under a name, tried by hand, attached to the units of a
channel and taken off again.  A device that comes off the channel is a device of no
particular kind any more.

Every device has a serial number, so that the sink of a printer, the source of a
typewriter and the notes of a probe can be looked up by the name under which it was
built, wherever it has gone since.
-/

namespace MixUnits

/-- A device on the shelf; `known` tells whether its kind is still known. -/
structure Shelved where
  device : Device
  serial : Nat
  known : Bool

/-- A channel and the devices around it. -/
structure Bench where
  channel : Channel
  shelf : List (String × Shelved)
  attached : List (Nat × Nat)
  gone : List (Nat × Device)
  printers : List (String × Nat)
  typewriters : List (String × Nat)
  probes : List (String × Nat)
  noted : List (Nat × Nat)
  serial : Nat

namespace Bench

/-- A bench with nothing on it. -/
def empty : Bench where
  channel := .idle (.blank .empty)
  shelf := []
  attached := []
  gone := []
  printers := []
  typewriters := []
  probes := []
  noted := []
  serial := 0

/-- The moment. -/
def now (bench : Bench) : UInt64 :=
  bench.channel.now

/-- The files below the working folder. -/
def files (bench : Bench) : FileSystem :=
  bench.channel.machine.files

/-- A bench with the machine changed. -/
def mapMachine
    (bench : Bench)
    (change : Machine → Machine) :
    Bench :=
  { bench with
    channel := { bench.channel with machine := change bench.channel.machine } }

/-- A bench with other files. -/
def withFiles
    (bench : Bench)
    (files : FileSystem) :
    Bench :=
  bench.mapMachine fun machine => { machine with files := files }

/-- The device on the shelf under a name. -/
def shelved?
    (bench : Bench)
    (name : String) :
    Option Shelved :=
  bench.shelf.lookup name

/-- Puts a device on the shelf; the one that had the name is gone. -/
def shelve
    (bench : Bench)
    (name : String)
    (shelved : Shelved) :
    Bench :=
  let gone :=
    match bench.shelved? name with
    | none => bench.gone
    | some former =>
      if former.serial = shelved.serial then bench.gone
      else (former.serial, former.device) :: bench.gone
  { bench with
    shelf := (name, shelved) :: bench.shelf.filter fun entry => entry.1 != name
    gone := gone }

/-- Takes a device off the shelf. -/
def unshelve
    (bench : Bench)
    (name : String) :
    Bench :=
  { bench with shelf := bench.shelf.filter fun entry => entry.1 != name }

/-- Notes that the device that a unit has now leaves for good. -/
def abandon
    (bench : Bench)
    (unit : Nat) :
    Bench :=
  match bench.attached.lookup unit, bench.channel.machine.device? unit with
  | some serial, some device => { bench with gone := (serial, device) :: bench.gone }
  | _, _ => bench

/-- The device of a serial number, wherever it is. -/
def device?
    (bench : Bench)
    (serial : Nat) :
    Option Device :=
  match bench.shelf.find? fun entry => entry.2.serial = serial with
  | some entry => some entry.2.device
  | none =>
    match bench.attached.find? fun entry => entry.2 = serial with
    | some entry => bench.channel.machine.device? entry.1
    | none => bench.gone.lookup serial

end Bench

end MixUnits
