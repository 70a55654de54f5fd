import Mathlib.Logic.Function.Basic
import MixUnits.Proofs.History
import MixUnits.Proofs.Transfer

/-!
# Devices that come and go

A device may leave a unit and be attached to another one, so a unit does not tell which
device it has.  In an installation every device has a serial number, whether it is attached
to a unit or spare, and the number of a device never becomes that of another one.

An installation also keeps the stints of its devices.  A stint is what a device does for one
request: it begins when the request is issued and ends when the device is ready again.
-/

namespace MixUnits

namespace Machine

end Machine

namespace Channel

/--
What the device with a serial number does for one request, which is the one that completes
with a given number.
-/
structure Stint where
  serial : Nat
  number : Nat
  request : Request
  issuedAt : UInt64
  readyAt : UInt64

/-- A channel with devices that come and go, and all that they have done so far. -/
structure Installation where
  history : History
  /-- The devices that are not attached to a unit, by serial number. -/
  spare : Nat → Option Device
  /-- The serial numbers of the devices that are attached to the units. -/
  serial? : Nat → Option Nat
  stints : List Stint

/-- What can happen to an installation. -/
inductive Move where
  | attach (unit serial : Nat)
  | detach (unit : Nat)
  | submit (request : Request)
  | step
  | moveClock (move : ClockMove)
  | setMemory (memory : Buffer)
  | setFiles (files : FileSystem)

namespace Installation

/-- A new channel, with any devices to be attached to it. -/
def new
    (files : FileSystem)
    (spare : Nat → Option Device) :
    Installation :=
  ⟨.new files, spare, fun _ => none, []⟩

/-- The device attached to a unit, if there is one. -/
def device?
    (installation : Installation)
    (unit : Nat) :
    Option Device :=
  installation.history.channel.machine.device? unit

/-- A spare device is attached to a unit; the one that was there, if any, is lost. -/
def attach
    (installation : Installation)
    (unit serial : Nat) :
    Installation :=
  match installation.spare serial with
  | none => installation
  | some device =>
    { installation with
      history := installation.history.act (.attach unit device)
      spare := Function.update installation.spare serial none
      serial? :=
        if unit < unitCount then Function.update installation.serial? unit (some serial)
        else installation.serial? }

/-- The device of a unit, if there is one, is spare again. -/
def detach
    (installation : Installation)
    (unit : Nat) :
    Installation :=
  { installation with
    history := installation.history.act (.detach unit)
    spare :=
      match installation.serial? unit with
      | none => installation.spare
      | some serial =>
        Function.update installation.spare serial (installation.device? unit)
    serial? := Function.update installation.serial? unit none }

/-- The stint of a device that becomes another one when a request is performed now. -/
def stint
    (installation : Installation)
    (request : Request)
    (serial : Nat)
    (next : Device) :
    Stint where
  serial := serial
  number := installation.history.completed.length
  request := request
  issuedAt := installation.history.channel.now
  readyAt := next.busyUntil

/-- The stint of the next step, if it performs a request on a device. -/
def nextStint? (installation : Installation) : Option Stint := do
  let issued ← installation.history.channel.step?
  let request := issued.completion.request
  let serial ← installation.serial? request.unit
  let next ← issued.channel.machine.device? request.unit
  some (installation.stint request serial next)

/-- The channel is asked to complete its first request. -/
def step (installation : Installation) : Installation :=
  { installation with
    history := installation.history.act .step
    stints := installation.stints ++ installation.nextStint?.toList }

/-- An installation after one more move. -/
def act
    (installation : Installation) :
    Move → Installation
  | .attach unit serial => installation.attach unit serial
  | .detach unit => installation.detach unit
  | .submit request =>
    { installation with history := installation.history.act (.submit request) }
  | .step => installation.step
  | .moveClock move =>
    { installation with history := installation.history.act (.moveClock move) }
  | .setMemory memory =>
    { installation with history := installation.history.act (.setMemory memory) }
  | .setFiles files =>
    { installation with history := installation.history.act (.setFiles files) }

/-- An installation after some moves. -/
def replay
    (installation : Installation)
    (moves : List Move) :
    Installation :=
  moves.foldl act installation

/--
Whether a move takes the clock beyond its last moment, or begins a transfer that lasts beyond
that moment.
-/
def outlasts (installation : Installation) : Move → Bool
  | .step => installation.history.channel.outlasts
  | .moveClock move => move.overflows installation.history.channel.now
  | .attach .. | .detach _ | .submit _ | .setMemory _ | .setFiles _ => false

/-- An installation after some moves by either arithmetic. -/
def replay?
    (arithmetic : Arithmetic)
    (installation : Installation)
    (moves : List Move) :
    Option Installation :=
  arithmetic.replay? outlasts act installation moves

/-- What it means that none of some moves sets the clock back. -/
def GoesForward (installation : Installation) : List Move → Prop
  | [] => True
  | move :: rest =>
    installation.history.channel.now ≤ (installation.act move).history.channel.now ∧
      (installation.act move).GoesForward rest

instance decidableGoesForward (installation : Installation) :
    ∀ moves, Decidable (installation.GoesForward moves)
  | [] => inferInstanceAs (Decidable True)
  | move :: rest =>
    haveI := decidableGoesForward (installation.act move) rest
    inferInstanceAs (Decidable (_ ∧ _))

/-- The device with a serial number, attached to a unit or spare. -/
def Has
    (installation : Installation)
    (serial : Nat)
    (device : Device) :
    Prop :=
  installation.spare serial = some device ∨
    ∃ unit,
      installation.serial? unit = some serial ∧ installation.device? unit = some device

/-- The serial numbers tell the devices apart, and none is lost that has one. -/
structure Numbered (installation : Installation) : Prop where
  isSome_serial? :
    ∀ unit, (installation.serial? unit).isSome = (installation.device? unit).isSome
  apart :
    ∀ {one other serial},
      installation.serial? one = some serial → installation.serial? other = some serial →
        one = other
  unspare :
    ∀ {unit serial},
      installation.serial? unit = some serial → installation.spare serial = none

/-- A serial number is that of one device. -/
theorem Numbered.unique
    {installation : Installation}
    (numbered : installation.Numbered)
    {serial : Nat}
    {one other : Device}
    (hasOne : installation.Has serial one)
    (hasOther : installation.Has serial other) :
    one = other := by
  rcases hasOne with spare | ⟨unit, known, found⟩
  · rcases hasOther with spare' | ⟨unit', known', found'⟩
    · exact Option.some.inj (spare.symm.trans spare')
    · rw [numbered.unspare known'] at spare
      contradiction
  · rcases hasOther with spare' | ⟨unit', known', found'⟩
    · rw [numbered.unspare known] at spare'
      contradiction
    · obtain rfl := numbered.apart known known'
      exact Option.some.inj (found.symm.trans found')

section Attaching

variable
  {installation : Installation}
  {serial : Nat}
  {device : Device}
  (free : installation.spare serial = some device)
  (unit : Nat)

include free

end Attaching

section Moves

variable {installation : Installation}

end Moves

end Installation

end Channel

end MixUnits
