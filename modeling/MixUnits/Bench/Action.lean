import MixUnits.Bench.Shelf
import MixUnits.Clock

/-!
# Work on the bench

An action changes the bench, shows a finding and reports notices.  An action on a name
that is not on the shelf shows just that.
-/

namespace MixUnits

/-- What can be done on a bench. -/
inductive Action where
  | moveClock (move : ClockMove)
  | install (path : String) (contents : Array UInt8)
  | makeFolder (path : String)
  | remove (path : String)
  | contents (path : String)
  | listing
  | renewMemory (size : Nat)
  | store (start : Nat) (words : Buffer)
  | load (start count : Nat)
  | build (name : String) (blueprint : Blueprint)
  | input (name : String) (buffer : Buffer)
  | output (name : String) (buffer : Buffer)
  | control (name : String) (mode : UInt32)
  | describe (name : String)
  | seek (name : String) (block : Nat)
  | isAtEnd (name : String)
  | words (name : String) (start count : Nat)
  | sink (name : String)
  | unread (name : String)
  | notes (name : String)
  | attach (unit : Nat) (name : String)
  | detach (unit : Nat) (name : String)
  | unit (unit : Nat)
  | submit (request : Request)
  | step
  | drain

/-- What can be seen of a device. -/
structure Description where
  blockSize : Nat
  blockCount : Nat
  transferWords : Nat
  cursor : Nat
  busy : Bool
  busyUntil : UInt64
  deriving DecidableEq, Repr

/-- What happens while a channel works off its queue. -/
inductive Progress where
  | completed (completion : Completion)
  | waited (moment : UInt64)
  deriving DecidableEq, Repr

/-- What an action shows. -/
inductive Finding where
  | nothing
  | flag (value : Bool)
  | number (value : Nat)
  | contents (contents? : Option (Array UInt8))
  | listing (entries : List (Location × Option Nat))
  | words (words : Buffer)
  | transfer (accepted : Bool) (words : Buffer)
  | description (description : Description)
  | sink (sink : Sink)
  | notes (notes : List ProbeNote)
  | unit (busy : Bool) (description? : Option Description)
  | completion (completion? : Option Completion)
  | progress (progress : List Progress)
  | noDevice
  | notADisk
  | notATypewriter

namespace Bench

/-- What can be seen of a device. -/
def description
    (bench : Bench)
    (device : Device) :
    Description where
  blockSize := device.blockSize
  blockCount := device.blockCount
  transferWords := device.transferWords
  cursor := device.cursor
  busy := device.busy bench.now
  busyUntil := device.busyUntil

/-- A bench after an action, what the action showed and what it reported. -/
structure Acted where
  bench : Bench
  finding : Finding
  notices : List Notice

/-- An action that shows something and changes nothing. -/
def shown
    (bench : Bench)
    (finding : Finding) :
    Acted :=
  ⟨bench, finding, []⟩

/-- An action on the device under a name. -/
def onDevice
    (bench : Bench)
    (name : String)
    (action : Shelved → Acted) :
    Acted :=
  match bench.shelved? name with
  | none => bench.shown .noDevice
  | some shelved => action shelved

/-- Builds a device under a name. -/
def build
    (bench : Bench)
    (name : String)
    (blueprint : Blueprint) :
    Acted :=
  let (device, notices) := blueprint.build bench.files
  let serial := bench.serial
  let shelved := bench.shelve name ⟨device, serial, true⟩
  let counted := { shelved with serial := serial + 1 }
  let named :=
    match device with
    | .linePrinter _ => { counted with printers := (name, serial) :: counted.printers }
    | .typewriter _ =>
      { counted with typewriters := (name, serial) :: counted.typewriters }
    | .probe _ => { counted with probes := (name, serial) :: counted.probes }
    | _ => counted
  ⟨named, .nothing, notices⟩

/-- Reads from a device by hand. -/
def input
    (bench : Bench)
    (name : String)
    (buffer : Buffer) :
    Acted :=
  bench.onDevice name fun shelved =>
    let received := shelved.device.input bench.now bench.files buffer
    ⟨bench.shelve name { shelved with device := received.unit },
      .transfer received.accepted received.buffer, received.notices⟩

/-- Writes to a device by hand. -/
def output
    (bench : Bench)
    (name : String)
    (buffer : Buffer) :
    Acted :=
  bench.onDevice name fun shelved =>
    let sent := shelved.device.output bench.now bench.files buffer
    ⟨(bench.shelve name { shelved with device := sent.unit }).withFiles sent.files,
      .flag sent.accepted, sent.notices⟩

/-- Controls a device by hand. -/
def control
    (bench : Bench)
    (name : String)
    (mode : UInt32) :
    Acted :=
  bench.onDevice name fun shelved =>
    let answer := shelved.device.control mode
    ⟨bench.shelve name { shelved with device := answer.unit }, .flag answer.accepted,
      answer.notices⟩

/-- Moves the cursor of a disk. -/
def seek
    (bench : Bench)
    (name : String)
    (block : Nat) :
    Acted :=
  bench.onDevice name fun shelved =>
    match shelved.known, shelved.device with
    | true, .disk disk =>
      let answer := disk.seek block
      ⟨bench.shelve name { shelved with device := .disk answer.unit },
        .flag answer.accepted, answer.notices⟩
    | _, _ => bench.shown .notADisk

/-- Tells whether a typewriter has seen its source end. -/
def isAtEnd
    (bench : Bench)
    (name : String) :
    Acted :=
  bench.onDevice name fun shelved =>
    match shelved.known, shelved.device with
    | true, .typewriter typewriter => bench.shown (.flag typewriter.ended)
    | _, _ => bench.shown .notATypewriter

/-- The notes of a probe that were not shown before. -/
def notes
    (bench : Bench)
    (name : String) :
    Acted :=
  match bench.probes.lookup name with
  | none => bench.shown .noDevice
  | some serial =>
    match bench.device? serial with
    | some (.probe probe) =>
      let shownBefore := (bench.noted.lookup serial).getD 0
      ⟨{ bench with noted := (serial, probe.notes.length) :: bench.noted },
        .notes (probe.notes.drop shownBefore), []⟩
    | _ => bench.shown .noDevice

/-- Attaches a device to a unit; it is off the shelf even if there is no such unit. -/
def attach
    (bench : Bench)
    (unit : Nat)
    (name : String) :
    Acted :=
  bench.onDevice name fun shelved =>
    let machine := bench.channel.machine
    let answer := machine.attach unit shelved.device
    let lent := bench.unshelve name
    let moved :=
      if answer.accepted then
        let left := lent.abandon unit
        { left with
          attached :=
            (unit, shelved.serial) :: left.attached.filter fun entry => entry.1 != unit }
      else
        { lent with gone := (shelved.serial, shelved.device) :: lent.gone }
    ⟨moved.mapMachine fun _ => answer.unit, .flag answer.accepted, answer.notices⟩

/-- Takes the device of a unit off the channel and puts it on the shelf. -/
def detach
    (bench : Bench)
    (unit : Nat)
    (name : String) :
    Acted :=
  match bench.channel.machine.device? unit with
  | none => bench.shown (.flag false)
  | some device =>
    let serial := (bench.attached.lookup unit).getD 0
    let freed :=
      { bench with attached := bench.attached.filter fun entry => entry.1 != unit }
    let shelved := freed.shelve name ⟨device, serial, false⟩
    ⟨shelved.mapMachine fun machine => machine.place unit none, .flag true, []⟩

/-- What can be seen of an event while a channel works off its queue. -/
def progress? : Channel.Event → Option Progress
  | .queued .. => none
  | .waited moment => some (.waited moment)
  | .completed completion => some (.completed completion)

/-- Works off the queue of the channel, waiting where it has to. -/
def drain (bench : Bench) : Acted :=
  let run := bench.channel.run []
  ⟨{ bench with channel := run.channel },
    .progress (run.steps.toList.filterMap fun step => progress? step.event),
    run.steps.toList.flatMap Channel.Step.notices⟩

/-- Completes the first request of the channel if its unit is ready. -/
def step (bench : Bench) : Acted :=
  match bench.channel.step? with
  | none => bench.shown (.completion none)
  | some issued =>
    ⟨{ bench with channel := issued.channel }, .completion (some issued.completion),
      issued.notices⟩

/-- The files and folders with the lengths of the files. -/
def listing (files : FileSystem) : List (Location × Option Nat) :=
  files.listing.map fun entry =>
    (entry.1,
      match entry.2 with
      | .folder => none
      | .file contents => some contents.get.size)

/-- Carries out an action. -/
def act
    (bench : Bench) :
    Action → Acted
  | .moveClock move =>
    let now := move.apply bench.now
    ⟨{ bench with channel := { bench.channel with now := now } }, .number now.toNat, []⟩
  | .install path contents =>
    ⟨bench.withFiles (bench.files.install path (Thunk.pure contents)), .nothing, []⟩
  | .makeFolder path =>
    ⟨bench.withFiles (bench.files.makeFolders path), .nothing, []⟩
  | .remove path =>
    let (removed, files) := bench.files.remove path
    ⟨bench.withFiles files, .flag removed, []⟩
  | .contents path => bench.shown (.contents (bench.files.read path).toOption)
  | .listing => bench.shown (.listing (listing bench.files))
  | .renewMemory size =>
    ⟨bench.mapMachine fun machine => { machine with memory := Buffer.blank size },
      .nothing, []⟩
  | .store start words =>
    ⟨bench.mapMachine fun machine =>
        { machine with memory := machine.memory.overlay start words },
      .nothing, []⟩
  | .load start count =>
    bench.shown (.words (bench.channel.machine.memory.slice start (start + count)))
  | .build name blueprint => bench.build name blueprint
  | .input name buffer => bench.input name buffer
  | .output name buffer => bench.output name buffer
  | .control name mode => bench.control name mode
  | .describe name =>
    bench.onDevice name fun shelved =>
      bench.shown (.description (bench.description shelved.device))
  | .seek name block => bench.seek name block
  | .isAtEnd name => bench.isAtEnd name
  | .words name start count =>
    bench.onDevice name fun shelved =>
      bench.shown (.words (shelved.device.words.slice start (start + count)))
  | .sink name =>
    match (bench.printers.lookup name).bind bench.device? with
    | some (.linePrinter printer) => bench.shown (.sink printer.sink)
    | _ => bench.shown .noDevice
  | .unread name =>
    match (bench.typewriters.lookup name).bind bench.device? with
    | some (.typewriter typewriter) => bench.shown (.number typewriter.source.length)
    | _ => bench.shown .noDevice
  | .notes name => bench.notes name
  | .attach unit name => bench.attach unit name
  | .detach unit name => bench.detach unit name
  | .unit unit =>
    bench.shown
      (.unit (bench.channel.machine.busy bench.now unit)
        ((bench.channel.machine.device? unit).map bench.description))
  | .submit request =>
    let answer := bench.channel.submit request
    ⟨{ bench with channel := answer.unit }, .flag answer.accepted, answer.notices⟩
  | .step => bench.step
  | .drain => bench.drain

end Bench

end MixUnits
