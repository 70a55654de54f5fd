import MixUnits.Device.Card
import MixUnits.Device.Drive
import MixUnits.Device.LinePrinter
import MixUnits.Device.PaperTape
import MixUnits.Device.Probe
import MixUnits.Device.Typewriter

/-!
# Devices

A device is a unit of any kind.  Every device has blocks, a cursor and the end of its
last transfer; which operations it supports is a matter of its kind, and one that it
does not support is refused and changes nothing.
-/

namespace MixUnits

/-- A unit of any kind. -/
inductive Device where
  | tape (unit : Tape)
  | disk (unit : Disk)
  | cardReader (unit : CardReader)
  | cardPunch (unit : CardPunch)
  | linePrinter (unit : LinePrinter)
  | typewriter (unit : Typewriter)
  | paperTape (unit : PaperTape)
  | inert (unit : Inert)
  | probe (unit : Probe)

namespace Device

/-- The size of the blocks of a device and their number. -/
def geometry : Device → Geometry
  | .tape _ => Medium.tape.geometry
  | .disk _ => Medium.disk.geometry
  | .cardReader _ => Card.geometry
  | .cardPunch _ => Card.geometry
  | .linePrinter _ => printerGeometry
  | .typewriter _ => typewriterGeometry
  | .paperTape _ => paperGeometry
  | .inert unit => unit.geometry
  | .probe unit => unit.geometry

/-- The blocks of a device. -/
def store : (device : Device) → BlockStore device.geometry
  | .tape unit => unit.store
  | .disk unit => unit.store
  | .cardReader unit => unit.store
  | .cardPunch unit => unit.store
  | .linePrinter unit => unit.store
  | .typewriter unit => unit.store
  | .paperTape unit => unit.store
  | .inert unit => unit.store
  | .probe unit => unit.store

/-- The words in a block of a device. -/
def blockSize (device : Device) : Nat :=
  device.geometry.blockSize

/-- The number of blocks of a device. -/
def blockCount (device : Device) : Nat :=
  device.geometry.blockCount

/-- The block that comes next, if the device has any use for it. -/
def cursor (device : Device) : Nat :=
  device.store.cursor

/-- The end of the last transfer. -/
def busyUntil (device : Device) : UInt64 :=
  device.store.busyUntil

/-- Whether the last transfer still lasts. -/
def busy
    (device : Device)
    (now : UInt64) :
    Bool :=
  device.store.busy now

/-- The words of all blocks. -/
def words (device : Device) : Buffer :=
  device.store.words

/-- The cost of reading a word from a device that can be read, in milliseconds. -/
def readCost? : Device → Option UInt64
  | .tape _ | .disk _ => some Drive.readLatency
  | .cardReader _ => some CardReader.latency
  | .typewriter _ => some Typewriter.latency
  | .probe unit => some unit.latency
  | .cardPunch _ | .linePrinter _ | .paperTape _ | .inert _ => none

/-- The cost of writing a word to a device that can be written to, in milliseconds. -/
def writeCost? : Device → Option UInt64
  | .tape _ | .disk _ => some Drive.writeLatency
  | .cardPunch _ => some CardPunch.latency
  | .linePrinter _ => some LinePrinter.latency
  | .paperTape _ => some PaperTape.latency
  | .probe unit => some unit.latency
  | .cardReader _ | .typewriter _ | .inert _ => none

/-- Whether a transfer at a cost a word lasts beyond the last moment of the clock. -/
def outlasts
    (device : Device)
    (cost? : Option UInt64)
    (now : UInt64) :
    Bool :=
  cost?.any (device.geometry.outlasts now)

/-- The words that one transfer moves; a paper tape is punched whole. -/
def transferWords : Device → Nat
  | .paperTape _ => paperGeometry.size
  | .probe unit => unit.transferWords
  | device => device.blockSize

/-- Reads into a buffer. -/
def input
    (device : Device)
    (now : UInt64)
    (files : FileSystem)
    (buffer : Buffer) :
    Received Device :=
  match device with
  | .tape unit => (unit.input now buffer).map .tape
  | .disk unit => (unit.input now buffer).map .disk
  | .cardReader unit => (unit.input now files buffer).map .cardReader
  | .typewriter unit => (unit.input now buffer).map .typewriter
  | .probe unit => (unit.input now buffer).map .probe
  | .cardPunch _ | .linePrinter _ | .paperTape _ | .inert _ =>
    (Answer.refused device []).received buffer

/-- Writes out a buffer. -/
def output
    (device : Device)
    (now : UInt64)
    (files : FileSystem)
    (buffer : Buffer) :
    Sent Device :=
  match device with
  | .tape unit => (unit.output now files buffer).map .tape
  | .disk unit => (unit.output now files buffer).map .disk
  | .cardPunch unit => (unit.output now files buffer).map .cardPunch
  | .linePrinter unit => ((unit.output now buffer).map .linePrinter).sent files
  | .paperTape unit => (unit.output now files buffer).map .paperTape
  | .probe unit => ((unit.output now buffer).map .probe).sent files
  | .cardReader _ | .typewriter _ | .inert _ => (Answer.refused device []).sent files

/-- Reads into a buffer by either arithmetic. -/
def input?
    (arithmetic : Arithmetic)
    (device : Device)
    (now : UInt64)
    (files : FileSystem)
    (buffer : Buffer) :
    Option (Received Device) :=
  let received := device.input now files buffer
  arithmetic.outcome? (received.accepted && device.outlasts device.readCost? now) received

/-- Writes out a buffer by either arithmetic. -/
def output?
    (arithmetic : Arithmetic)
    (device : Device)
    (now : UInt64)
    (files : FileSystem)
    (buffer : Buffer) :
    Option (Sent Device) :=
  let sent := device.output now files buffer
  arithmetic.outcome? (sent.accepted && device.outlasts device.writeCost? now) sent

/-- Carries out a control operation; on a disk it moves the cursor to block `mode`. -/
def control
    (device : Device)
    (mode : UInt32) :
    Answer Device :=
  match device with
  | .disk unit => (unit.control mode).map .disk
  | .probe unit => (unit.control mode).map .probe
  | .tape _ | .cardReader _ | .cardPunch _ | .linePrinter _ | .typewriter _
  | .paperTape _ | .inert _ => Answer.refused device []

end Device

end MixUnits
