import MixUnits.Proofs.Drive

/-!
# What a device accepts

A device says of every call whether it accepted it, and that can be relied on.  A transfer
is refused if the device has no such transfer or if it is a drive with the cursor behind its
last block, and for no other reason: a file that is missing or in the way, a sink that takes
nothing and a source that has ended do not matter.  A refusal leaves the device as it was.
An accepted transfer makes it busy from now on, for the time of a block.

A disk is never behind its last block, because seeking is the only way to move its cursor.
This is an invariant of the devices as they are mounted and asked by anyone, in any order.
-/

namespace MixUnits.Device

/--
The words in a block of a device, and the milliseconds that it takes to read and to write each
of them, as far as the device can do so.
-/
def rates : Device → Nat × Option UInt64 × Option UInt64
  | .tape _ | .disk _ => (100, some 100, some 150)
  | .cardReader _ => (16, some 150, none)
  | .cardPunch _ => (16, none, some 250)
  | .linePrinter _ => (24, none, some 100)
  | .typewriter _ => (14, some 100, none)
  | .paperTape _ => (14, none, some 200)
  | .inert unit => (unit.geometry.blockSize, none, none)
  | .probe unit => (unit.geometry.blockSize, some unit.latency, some unit.latency)

theorem rates_eq (device : Device) :
    device.rates = (device.blockSize, device.readCost?, device.writeCost?) := by
  cases device with
  | _ => rfl

/-- A drive with the cursor behind its last block. -/
def IsSpent : Device → Prop
  | .tape unit => Medium.tape.geometry.blockCount ≤ unit.store.cursor
  | .disk unit => Medium.disk.geometry.blockCount ≤ unit.store.cursor
  | .cardReader _ | .cardPunch _ | .linePrinter _ | .typewriter _ | .paperTape _
  | .inert _ | .probe _ => False

/--
How a transfer that costs `cost?` a word ends at a moment: refused for one of two reasons,
with the device as it was, or accepted, with the device busy for the time of a block.
-/
inductive Ended
    (device : Device)
    (cost? : Option UInt64)
    (now : UInt64) :
    Bool → Device → Prop
  | refused
      (reason : cost? = none ∨ device.IsSpent) :
      Ended device cost? now false device
  | accepted
      {cost : UInt64}
      {unit : Device}
      (supported : cost? = some cost)
      (ready : ¬device.IsSpent)
      (busy : unit.busyUntil = device.geometry.transferEnd now cost) :
      Ended device cost? now true unit

namespace Ended

variable
  {device unit : Device}
  {cost? : Option UInt64}
  {now : UInt64}
  {accepted : Bool}

theorem accepted_eq_false_iff
    (ended : device.Ended cost? now accepted unit) :
    accepted = false ↔ cost? = none ∨ device.IsSpent := by
  cases ended with
  | refused reason => exact ⟨fun _ => reason, fun _ => rfl⟩
  | accepted supported ready busy => simp [supported, ready]

theorem unit_of_refused
    (ended : device.Ended cost? now accepted unit)
    (refused : accepted = false) :
    unit = device := by
  cases ended with
  | refused reason => rfl
  | accepted supported ready busy => contradiction

theorem busyUntil_of_accepted
    (ended : device.Ended cost? now accepted unit)
    (taken : accepted = true) :
    ∃ cost,
      cost? = some cost ∧
        unit.busyUntil = now + UInt64.ofNat device.blockSize * cost ∧
          unit.busyUntil.toNat =
            (now.toNat + device.blockSize * cost.toNat) % UInt64.size := by
  cases ended with
  | refused reason => contradiction
  | accepted supported ready busy =>
      refine ⟨_, supported, ?_, ?_⟩
      · rw [busy, Geometry.transferEnd_eq]
        rfl
      · rw [busy, Geometry.toNat_transferEnd]
        rfl

/--
However a transfer ends, the device is busy as long as before, or at least until now, unless
the end is beyond the last moment of the clock.
-/
theorem busyUntil_cases
    (ended : device.Ended cost? now accepted unit)
    (fits : (accepted && device.outlasts cost? now) = false) :
    unit.busyUntil = device.busyUntil ∨ now ≤ unit.busyUntil := by
  cases ended with
  | refused reason => exact Or.inl rfl
  | @accepted cost unit supported ready busy =>
      rw [outlasts, supported, Option.any_some, Bool.true_and] at fits
      rw [busy]
      exact Or.inr (Geometry.le_transferEnd fits)

end Ended

section Drives

variable
  {medium : Medium}
  (drive : Drive medium)

theorem busyUntil_ofDrive : (ofDrive drive).busyUntil = drive.store.busyUntil := by
  cases medium with
  | tape => rfl
  | disk => rfl

theorem isSpent_ofDrive :
    (ofDrive drive).IsSpent ↔ medium.geometry.blockCount ≤ drive.store.cursor := by
  cases medium with
  | tape => exact Iff.rfl
  | disk => exact Iff.rfl

theorem ended_input_ofDrive
    (now : UInt64)
    (buffer : Buffer) :
    let received := drive.input now buffer
    (ofDrive drive).Ended (some Drive.readLatency) now received.accepted
        (ofDrive received.unit) ∧
      (received.accepted = false → received.buffer = buffer) := by
  dsimp only
  rcases Nat.lt_or_ge drive.store.cursor medium.geometry.blockCount with inside | outside
  · obtain ⟨array, stored⟩ := drive.exists_stores
    rcases Drive.input_of_inside stored inside now buffer with ⟨taken, unit, -⟩
    rw [taken, unit]
    refine ⟨.accepted rfl ?_ ?_, nofun⟩
    · rw [isSpent_ofDrive]
      exact Nat.not_le_of_lt inside
    · rw [busyUntil_ofDrive]
      cases medium with
      | tape => rfl
      | disk => rfl
  · rcases Drive.input_of_outside outside now buffer with ⟨refused, unit, kept⟩
    rw [refused, unit]
    exact ⟨.refused (Or.inr ((isSpent_ofDrive drive).2 outside)), fun _ => kept⟩

theorem ended_output_ofDrive
    (now : UInt64)
    (files : FileSystem)
    (buffer : Buffer) :
    let sent := drive.output now files buffer
    (ofDrive drive).Ended (some Drive.writeLatency) now sent.accepted
        (ofDrive sent.unit) ∧
      (sent.accepted = false → sent.files = files) := by
  dsimp only
  rcases Nat.lt_or_ge drive.store.cursor medium.geometry.blockCount with inside | outside
  · obtain ⟨array, stored⟩ := drive.exists_stores
    rcases Drive.output_of_inside stored inside now files buffer with
      ⟨taken, -, -, busy, -⟩
    rw [taken]
    refine ⟨.accepted rfl ?_ ?_, nofun⟩
    · rw [isSpent_ofDrive]
      exact Nat.not_le_of_lt inside
    · rw [busyUntil_ofDrive, busy]
      cases medium with
      | tape => rfl
      | disk => rfl
  · rcases Drive.output_of_outside outside now files buffer with ⟨refused, unit, kept⟩
    rw [refused, unit]
    exact ⟨.refused (Or.inr ((isSpent_ofDrive drive).2 outside)), fun _ => kept⟩

end Drives

section Transfers

variable
  (device : Device)
  (now : UInt64)
  (files : FileSystem)
  (buffer : Buffer)

/-- An input ends as a transfer does, and a refusal leaves the buffer alone. -/
theorem ended_input :
    let received := device.input now files buffer
    device.Ended device.readCost? now received.accepted received.unit ∧
      (received.accepted = false → received.buffer = buffer) := by
  cases device with
  | tape unit => exact ended_input_ofDrive unit now buffer
  | disk unit => exact ended_input_ofDrive unit now buffer
  | cardReader unit =>
      rw [input, CardReader.input]
      cases files.read (Card.path unit.deck unit.store.cursor) with
      | ok contents => exact ⟨.accepted rfl not_false rfl, nofun⟩
      | error cause => exact ⟨.accepted rfl not_false rfl, nofun⟩
  | typewriter unit => exact ⟨.accepted rfl not_false rfl, nofun⟩
  | probe unit => exact ⟨.accepted rfl not_false rfl, nofun⟩
  | cardPunch unit => exact ⟨.refused (Or.inl rfl), fun _ => rfl⟩
  | linePrinter unit => exact ⟨.refused (Or.inl rfl), fun _ => rfl⟩
  | paperTape unit => exact ⟨.refused (Or.inl rfl), fun _ => rfl⟩
  | inert unit => exact ⟨.refused (Or.inl rfl), fun _ => rfl⟩

/-- An output ends as a transfer does, and a refusal leaves the files alone. -/
theorem ended_output :
    let sent := device.output now files buffer
    device.Ended device.writeCost? now sent.accepted sent.unit ∧
      (sent.accepted = false → sent.files = files) := by
  cases device with
  | tape unit => exact ended_output_ofDrive unit now files buffer
  | disk unit => exact ended_output_ofDrive unit now files buffer
  | cardPunch unit => exact ⟨.accepted rfl not_false rfl, nofun⟩
  | linePrinter unit => exact ⟨.accepted rfl not_false rfl, nofun⟩
  | paperTape unit => exact ⟨.accepted rfl not_false rfl, nofun⟩
  | probe unit => exact ⟨.accepted rfl not_false rfl, nofun⟩
  | cardReader unit => exact ⟨.refused (Or.inl rfl), fun _ => rfl⟩
  | typewriter unit => exact ⟨.refused (Or.inl rfl), fun _ => rfl⟩
  | inert unit => exact ⟨.refused (Or.inl rfl), fun _ => rfl⟩

end Transfers

/-- A transfer lasts beyond the last moment exactly if its sum does not fit. -/
theorem outlasts_eq_true_iff
    {device : Device}
    {cost? : Option UInt64}
    {now : UInt64} :
    device.outlasts cost? now = true ↔
      ∃ cost,
        cost? = some cost ∧ UInt64.size ≤ now.toNat + device.blockSize * cost.toNat := by
  simp only [outlasts, Option.any_eq_true, Geometry.outlasts, decide_eq_true_eq]
  exact Iff.rfl

/-- A control operation takes no time. -/
theorem busyUntil_control
    (device : Device)
    (mode : UInt32) :
    (device.control mode).unit.busyUntil = device.busyUntil := by
  cases device with
  | disk unit =>
      rw [control, Drive.control, Drive.seek]
      split
      · rfl
      · rfl
  | tape unit => rfl
  | cardReader unit => rfl
  | cardPunch unit => rfl
  | linePrinter unit => rfl
  | typewriter unit => rfl
  | paperTape unit => rfl
  | inert unit => rfl
  | probe unit => rfl

/-- A device that was mounted, on whatever there is, and then asked in any way. -/
inductive Reachable : Device → Prop
  | tape
      (files : FileSystem)
      (path : String) :
      Reachable (.tape (Drive.mount files path).1)
  | disk
      (files : FileSystem)
      (path : String) :
      Reachable (.disk (Drive.mount files path).1)
  | cardReader (deck : String) : Reachable (.cardReader (.mount deck))
  | cardPunch (deck : String) : Reachable (.cardPunch (.mount deck))
  | linePrinter (sink : Sink) : Reachable (.linePrinter (.mount sink))
  | typewriter (source : List Keystroke) : Reachable (.typewriter (.mount source))
  | paperTape (path : String) : Reachable (.paperTape (.mount path))
  | input
      {device : Device}
      (reached : Reachable device)
      (now : UInt64)
      (files : FileSystem)
      (buffer : Buffer) :
      Reachable (device.input now files buffer).unit
  | output
      {device : Device}
      (reached : Reachable device)
      (now : UInt64)
      (files : FileSystem)
      (buffer : Buffer) :
      Reachable (device.output now files buffer).unit
  | control
      {device : Device}
      (reached : Reachable device)
      (mode : UInt32) :
      Reachable (device.control mode).unit
  | seek
      {disk : Disk}
      (reached : Reachable (.disk disk))
      (block : Nat) :
      Reachable (.disk (disk.seek block).unit)

/-- The devices that can be reached: the seven kinds, and a disk on one of its blocks. -/
def IsSound : Device → Prop
  | .disk unit => unit.store.cursor < Medium.disk.geometry.blockCount
  | .tape _ | .cardReader _ | .cardPunch _ | .linePrinter _ | .typewriter _
  | .paperTape _ => True
  | .inert _ | .probe _ => False

theorem isSound_seek
    {disk : Disk}
    (sound : (Device.disk disk).IsSound)
    (block : Nat) :
    (Device.disk (disk.seek block).unit).IsSound := by
  rw [Drive.seek]
  split
  · rename_i inside
    exact inside
  · exact sound

theorem isSound_input
    {device : Device}
    (sound : device.IsSound)
    (now : UInt64)
    (files : FileSystem)
    (buffer : Buffer) :
    (device.input now files buffer).unit.IsSound := by
  cases device with
  | disk unit =>
      obtain ⟨array, stored⟩ := unit.exists_stores
      rcases Drive.input_of_inside stored sound now buffer with ⟨-, moved, -⟩
      show (Device.disk (unit.input now buffer).unit).IsSound
      rw [moved]
      exact sound
  | cardReader unit =>
      rw [input, CardReader.input]
      cases files.read (Card.path unit.deck unit.store.cursor) with
      | ok contents => exact trivial
      | error cause => exact trivial
  | tape unit => exact trivial
  | cardPunch unit => exact trivial
  | linePrinter unit => exact trivial
  | typewriter unit => exact trivial
  | paperTape unit => exact trivial
  | inert unit => exact sound
  | probe unit => exact sound

theorem isSound_output
    {device : Device}
    (sound : device.IsSound)
    (now : UInt64)
    (files : FileSystem)
    (buffer : Buffer) :
    (device.output now files buffer).unit.IsSound := by
  cases device with
  | disk unit =>
      obtain ⟨array, stored⟩ := unit.exists_stores
      rcases Drive.output_of_inside stored sound now files buffer with ⟨-, -, cursor, -⟩
      show (unit.output now files buffer).unit.store.cursor < _
      rw [cursor]
      exact sound
  | tape unit => exact trivial
  | cardReader unit => exact trivial
  | cardPunch unit => exact trivial
  | linePrinter unit => exact trivial
  | typewriter unit => exact trivial
  | paperTape unit => exact trivial
  | inert unit => exact sound
  | probe unit => exact sound

theorem isSound_control
    {device : Device}
    (sound : device.IsSound)
    (mode : UInt32) :
    (device.control mode).unit.IsSound := by
  cases device with
  | disk unit => exact isSound_seek sound mode.toNat
  | tape unit => exact trivial
  | cardReader unit => exact trivial
  | cardPunch unit => exact trivial
  | linePrinter unit => exact trivial
  | typewriter unit => exact trivial
  | paperTape unit => exact trivial
  | inert unit => exact sound
  | probe unit => exact sound

theorem Reachable.isSound
    {device : Device}
    (reachable : device.Reachable) :
    device.IsSound := by
  induction reachable with
  | tape files path => exact trivial
  | disk files path =>
      rcases @Drive.stores_mount .disk files path with ⟨-, cursor, -⟩
      show (Drive.mount files path).1.store.cursor < _
      rw [cursor]
      exact Nat.zero_lt_succ _
  | cardReader deck => exact trivial
  | cardPunch deck => exact trivial
  | linePrinter sink => exact trivial
  | typewriter source => exact trivial
  | paperTape path => exact trivial
  | input reached now files buffer ih => exact isSound_input ih now files buffer
  | output reached now files buffer ih => exact isSound_output ih now files buffer
  | control reached mode ih => exact isSound_control ih mode
  | seek reached block ih => exact isSound_seek ih block

/-- The only reason to refuse a transfer that there is: a tape that has come to its end. -/
theorem IsSound.isSpent_iff
    {device : Device}
    (sound : device.IsSound) :
    device.IsSpent ↔ ∃ tape, device = .tape tape ∧ 2000 ≤ tape.store.cursor := by
  constructor
  · intro spent
    cases device with
    | tape unit => exact ⟨unit, rfl, spent⟩
    | disk unit => exact absurd spent (Nat.not_le_of_lt sound)
    | _ => exact False.elim spent
  · rintro ⟨tape, rfl, spent⟩
    exact spent

/-- A control operation is accepted by a disk only, and moves its cursor if it is. -/
theorem IsSound.control_cases
    {device : Device}
    (sound : device.IsSound)
    (mode : UInt32) :
    ((device.control mode).accepted = false ∧ (device.control mode).unit = device ∧
        ((∀ disk, device ≠ .disk disk) ∨ 4000 ≤ mode.toNat)) ∨
      ∃ disk,
        device = .disk disk ∧ mode.toNat < 4000 ∧
          (device.control mode).accepted = true ∧
            (device.control mode).unit =
              .disk { disk with store := { disk.store with cursor := mode.toNat } } := by
  cases device with
  | disk unit =>
      rw [control, Drive.control, Drive.seek]
      by_cases inside : mode.toNat < Medium.disk.geometry.blockCount
      · rw [if_pos inside]
        exact Or.inr ⟨unit, rfl, inside, rfl, rfl⟩
      · rw [if_neg inside]
        exact Or.inl ⟨rfl, rfl, Or.inr (Nat.le_of_not_lt inside)⟩
  | inert unit => exact False.elim sound
  | probe unit => exact False.elim sound
  | _ => exact Or.inl ⟨rfl, rfl, Or.inl nofun⟩

/--
The answer of a device can be relied on, whatever became of the device before and whatever
its files, its sink or its source are like.  It refuses a transfer that its kind does not
have, a tape refuses one behind its last block, and a control operation is refused but by a
disk with the block in question; nothing else is refused.  A refusal leaves the device, the
buffer and the files as they were.  An accepted transfer makes the device busy for the time
of a block, counted from now in 64 bits, and an accepted control operation changes its cursor
only.  Checked arithmetic gives the same answer, or none if a transfer is accepted that lasts
beyond the last moment of the clock.
-/
theorem Reachable.answers_truly
    {device : Device}
    (reachable : device.Reachable)
    (now : UInt64)
    (files : FileSystem)
    (buffer : Buffer)
    (mode : UInt32) :
    let received := device.input now files buffer
    let sent := device.output now files buffer
    let obeyed := device.control mode
    let atEnd := ∃ tape, device = .tape tape ∧ 2000 ≤ tape.store.cursor
    let exactEnd (cost : UInt64) := now.toNat + device.blockSize * cost.toNat
    device.rates = (device.blockSize, device.readCost?, device.writeCost?) ∧
    ((received.accepted = false ↔ device.readCost? = none ∨ atEnd) ∧
      (received.accepted = false →
        received.unit = device ∧ received.buffer = buffer) ∧
      (received.accepted = true →
        ∃ cost,
          device.readCost? = some cost ∧
            received.unit.busyUntil = now + UInt64.ofNat device.blockSize * cost ∧
              received.unit.busyUntil.toNat = exactEnd cost % UInt64.size) ∧
      ∀ arithmetic,
        (∀ answer, device.input? arithmetic now files buffer = some answer → answer = received) ∧
          (device.input? arithmetic now files buffer = none ↔
            arithmetic = .checked ∧ received.accepted = true ∧
              ∃ cost, device.readCost? = some cost ∧ UInt64.size ≤ exactEnd cost)) ∧
    ((sent.accepted = false ↔ device.writeCost? = none ∨ atEnd) ∧
      (sent.accepted = false → sent.unit = device ∧ sent.files = files) ∧
      (sent.accepted = true →
        ∃ cost,
          device.writeCost? = some cost ∧
            sent.unit.busyUntil = now + UInt64.ofNat device.blockSize * cost ∧
              sent.unit.busyUntil.toNat = exactEnd cost % UInt64.size) ∧
      ∀ arithmetic,
        (∀ answer, device.output? arithmetic now files buffer = some answer → answer = sent) ∧
          (device.output? arithmetic now files buffer = none ↔
            arithmetic = .checked ∧ sent.accepted = true ∧
              ∃ cost, device.writeCost? = some cost ∧ UInt64.size ≤ exactEnd cost)) ∧
    (obeyed.accepted = false ↔ (∀ disk, device ≠ .disk disk) ∨ 4000 ≤ mode.toNat) ∧
    (obeyed.accepted = false → obeyed.unit = device) ∧
    (obeyed.accepted = true →
      ∃ disk,
        device = .disk disk ∧
          obeyed.unit =
            .disk { disk with store := { disk.store with cursor := mode.toNat } }) := by
  intro received sent obeyed atEnd exactEnd
  have sound := reachable.isSound
  rcases device.ended_input now files buffer with ⟨read, keptBuffer⟩
  rcases device.ended_output now files buffer with ⟨wrote, keptFiles⟩
  refine
    ⟨device.rates_eq, ⟨?_, ?_, read.busyUntil_of_accepted, ?_⟩,
      ⟨?_, ?_, wrote.busyUntil_of_accepted, ?_⟩, ?_⟩
  · rw [read.accepted_eq_false_iff, sound.isSpent_iff]
  · intro refused
    exact ⟨read.unit_of_refused refused, keptBuffer refused⟩
  · intro arithmetic
    refine ⟨fun answer => Arithmetic.eq_of_outcome?, ?_⟩
    rw [input?, Arithmetic.outcome?_eq_none_iff, Bool.and_eq_true, outlasts_eq_true_iff]
  · rw [wrote.accepted_eq_false_iff, sound.isSpent_iff]
  · intro refused
    exact ⟨wrote.unit_of_refused refused, keptFiles refused⟩
  · intro arithmetic
    refine ⟨fun answer => Arithmetic.eq_of_outcome?, ?_⟩
    rw [output?, Arithmetic.outcome?_eq_none_iff, Bool.and_eq_true, outlasts_eq_true_iff]
  · rcases sound.control_cases mode with
      ⟨refused, same, reason⟩ | ⟨disk, rfl, inside, taken, moved⟩
    · exact
        ⟨⟨fun _ => reason, fun _ => refused⟩, fun _ => same,
          fun taken => absurd (refused.symm.trans taken) Bool.false_ne_true⟩
    · refine ⟨⟨?_, ?_⟩, ?_, fun _ => ⟨disk, rfl, moved⟩⟩
      · intro refused
        exact absurd (refused.symm.trans taken) Bool.false_ne_true
      · rintro (other | beyond)
        · exact absurd rfl (other disk)
        · exact absurd inside (Nat.not_lt_of_le beyond)
      · intro refused
        exact absurd (refused.symm.trans taken) Bool.false_ne_true

/-- A printer whose sink is broken has printed, and is busy for the time of a line. -/
theorem broken_sink_accepts_line :
    let printer := Device.linePrinter (.mount { kind := .broken "out of paper" })
    (printer.output 5 .empty #[]).accepted = true ∧
      (printer.output 5 .empty #[]).unit.busyUntil = 2405 := by
  intro printer
  rcases
    Reachable.answers_truly (.linePrinter { kind := .broken "out of paper" }) 5 .empty #[] 0
    with ⟨-, -, ⟨refused, -, busy, -⟩, -⟩
  have taken : (printer.output 5 .empty #[]).accepted = true := by
    rw [← Bool.not_eq_false, refused]
    rintro (unsupported | ⟨tape, other, -⟩)
    · contradiction
    · contradiction
  rcases busy taken with ⟨cost, supported, busyUntil, -⟩
  cases supported
  exact ⟨taken, busyUntil⟩

end MixUnits.Device
