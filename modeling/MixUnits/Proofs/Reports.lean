import MixUnits.Proofs.Acceptance
import MixUnits.Proofs.Delivery
import MixUnits.Proofs.Files
import MixUnits.Proofs.Packing
import MixUnits.Proofs.Reading

/-!
# What a device reports

A transfer that loses data counts as accepted all the same, so only the reports tell.  An
alarm is a warning or an error that is not about the length of a buffer.  An accepted
transfer raises one alarm if what the device reads from or writes to has failed it: the file
of a card, a file to be saved, a sink, or a source; otherwise it raises none.  A sink fails a
device by its answers, if it refuses what it is offered or if it took everything and cannot be
flushed.

A drive behind its last block raises one alarm, an error, and so does a disk that is asked for
a block that it does not have.  What a device does not support it does not report either.

No device ever reports a magnitude that does not fit into a word.
-/

namespace MixUnits

namespace Notice

/-- Whether a notice is a warning or an error, and not about the length of a buffer. -/
def isAlarm (notice : Notice) : Bool :=
  match notice with
  | .bufferLength .. => false
  | _ => notice.severity = .warn || notice.severity = .error

/-- Whether a notice is about no length and no magnitude. -/
def isPlain : Notice → Bool
  | .bufferLength .. | .magnitudeTruncated .. => false
  | _ => true

end Notice

/-- The alarms among some notices. -/
def alarms (notices : List Notice) : List Notice :=
  notices.filter Notice.isAlarm

theorem alarms_append (notices others : List Notice) :
    alarms (notices ++ others) = alarms notices ++ alarms others :=
  List.filter_append notices others

namespace Keyboard

/-- Of the reads of a line only the last one can fail, and its failure is reported. -/
theorem notices_line_cases
    (limit : Nat)
    (source : List Keystroke) :
    let strokes := reads (readCount limit source) source
    ((∀ cause, .failed cause ∉ strokes) ∧ strokes.filterMap Keystroke.warning? = []) ∨
      ∃ cause,
        .failed cause ∈ strokes ∧
          strokes.filterMap Keystroke.warning? = [.keyboardFailed cause] := by
  fun_induction readCount limit source with
  | case1 source => exact Or.inl ⟨fun _ => List.not_mem_nil, rfl⟩
  | case2 limit => exact Or.inl ⟨fun _ => by simp [reads], rfl⟩
  | case3 limit rest ih =>
      rcases ih with ⟨sound, none⟩ | ⟨cause, failed, one⟩
      · refine Or.inl ⟨fun cause member => ?_, none⟩
        rcases List.mem_cons.1 member with first | later
        · contradiction
        · exact sound cause later
      · exact Or.inr ⟨cause, List.mem_cons_of_mem _ failed, one⟩
  | case4 limit value rest coded ih =>
      rcases ih with ⟨sound, none⟩ | ⟨cause, failed, one⟩
      · refine Or.inl ⟨fun cause member => ?_, none⟩
        rcases List.mem_cons.1 member with first | later
        · contradiction
        · exact sound cause later
      · exact Or.inr ⟨cause, List.mem_cons_of_mem _ failed, one⟩
  | case5 limit value rest uncoded => exact Or.inl ⟨fun _ => by simp [reads], rfl⟩
  | case6 limit rest => exact Or.inl ⟨fun _ => by simp [reads], rfl⟩
  | case7 limit cause rest => exact Or.inr ⟨cause, by simp [reads], rfl⟩

end Keyboard

namespace Sink

namespace Offers

variable
  {sink last other : Sink}
  {bytes : List UInt8}
  {answers others : List SinkAnswer}

/-- The answers of a sink are a matter of the sink and of what it is offered. -/
theorem unique
    (one : sink.Offers bytes answers last)
    (two : sink.Offers bytes others other) :
    answers = others ∧ last = other := by
  induction one generalizing others other with
  | done sink =>
      cases two with
      | done => exact ⟨rfl, rfl⟩
      | refused left _ => exact absurd rfl left
      | onward left _ _ => exact absurd rfl left
  | refused left refusal =>
      cases two with
      | done => exact absurd rfl left
      | refused _ _ => exact ⟨rfl, rfl⟩
      | onward _ ongoing _ => exact absurd (ongoing.symm.trans refusal) Bool.false_ne_true
  | onward left ongoing later ih =>
      cases two with
      | done => exact absurd rfl left
      | refused _ refusal => exact absurd (ongoing.symm.trans refusal) Bool.false_ne_true
      | onward _ _ following =>
          rcases ih following with ⟨rfl, rfl⟩
          exact ⟨rfl, rfl⟩

end Offers

/-- What it means that a sink refuses some bytes, or takes them and cannot be flushed. -/
def Fails
    (sink : Sink)
    (bytes : List UInt8) :
    Prop :=
  ∃ answers last,
    sink.Offers bytes answers last ∧
      (answers.any SinkAnswer.isRefusal = true ∨ last.flush.2.isSome = true)

/-- A delivery gives back a failure exactly if the sink fails. -/
theorem isSome_deliver_iff
    (sink : Sink)
    (bytes : List UInt8) :
    (sink.deliver bytes).2.isSome = true ↔ sink.Fails bytes := by
  rcases sink.offers_writeAll bytes with ⟨answers, offers, failure⟩
  have only :
      sink.Fails bytes ↔
        answers.any SinkAnswer.isRefusal = true ∨
          (sink.writeAll bytes).1.flush.2.isSome = true := by
    refine ⟨?_, fun failed => ⟨answers, _, offers, failed⟩⟩
    rintro ⟨others, other, others_offers, failed⟩
    rcases offers.unique others_offers with ⟨rfl, same⟩
    rwa [same]
  rw [only, ← failure, deliver]
  rcases sink.writeAll bytes with ⟨written, _ | cause⟩
  · exact (or_iff_right Bool.false_ne_true).symm
  · exact iff_of_true rfl (Or.inl rfl)

end Sink

namespace FileSystem

/-- A file that cannot be saved is reported, and nothing else is. -/
theorem notices_replace
    (files : FileSystem)
    (path : String)
    (contents : Thunk (Array UInt8))
    (report : FileError → Notice) :
    (files.isWritable path = true ∧ (files.replace path contents report).2 = []) ∨
      ∃ cause,
        files.isWritable path = false ∧
          (files.replace path contents report).2 = [report cause] := by
  have writable := @isWritable_iff files path contents
  rw [replace]
  cases wrote : files.write path contents with
  | ok written => exact Or.inl ⟨writable.2 ⟨written, wrote⟩, rfl⟩
  | error cause =>
      refine Or.inr ⟨cause, ?_, rfl⟩
      rw [← Bool.not_eq_true, writable, wrote]
      rintro ⟨written, same⟩
      contradiction

end FileSystem

namespace BlockStore

variable
  {geometry : Geometry}
  (store : BlockStore geometry)
  (index length : Nat)

/-- A transfer with a block raises an alarm if the block is outside. -/
theorem alarms_transferNotices :
    alarms (store.transferNotices index length) =
      if index < geometry.blockCount then [] else [.blockOutside index geometry.blockCount] := by
  rw [transferNotices, alarms_append]
  by_cases same : length = geometry.blockSize
  · rw [if_pos same]
    split
    · rfl
    · rfl
  · rw [if_neg same]
    split
    · rfl
    · rfl

theorem mem_transferNotices
    {notice : Notice}
    (member : notice ∈ store.transferNotices index length) :
    (notice = .bufferLength length geometry.blockSize ∧ length ≠ geometry.blockSize) ∨
      notice = .blockOutside index geometry.blockCount := by
  rw [transferNotices, List.mem_append] at member
  rcases member with one | other
  · split at one
    · contradiction
    · next differs => exact Or.inl ⟨List.mem_singleton.1 one, differs⟩
  · split at other
    · contradiction
    · exact Or.inr (List.mem_singleton.1 other)

end BlockStore

namespace Device

/--
What it means that the card from which a device reads fails it, or its source: the file of the
card cannot be read, or a keystroke that is read for the line is a failure.
-/
def InputFails
    (device : Device)
    (files : FileSystem)
    (buffer : Buffer) :
    Prop :=
  match device with
  | .cardReader unit =>
    ∃ cause, files.read (Card.path unit.deck unit.store.cursor) = .error cause
  | .typewriter unit =>
    ∃ cause,
      .failed cause ∈
        Keyboard.reads (Keyboard.readCount (5 * min buffer.size 14) unit.source) unit.source
  | .tape _ | .disk _ | .cardPunch _ | .linePrinter _ | .paperTape _ | .inert _
  | .probe _ => False

/-- What it means that the sink of a device fails it, or the file that it saves. -/
def OutputFails
    (device : Device)
    (files : FileSystem)
    (buffer : Buffer) :
    Prop :=
  match device with
  | .linePrinter unit => unit.sink.Fails (LinePrinter.line buffer)
  | .tape unit => files.isWritable unit.path = false
  | .disk unit => files.isWritable unit.path = false
  | .paperTape unit => files.isWritable unit.path = false
  | .cardPunch unit => files.isWritable (Card.path unit.deck unit.store.cursor) = false
  | .cardReader _ | .typewriter _ | .inert _ | .probe _ => False

/--
What is reported of a transfer of `length` words that costs `cost?` a word and that fails or
not: one alarm for a failure, one for a block that is not there, none for anything else.
-/
structure Reports
    (device : Device)
    (cost? : Option UInt64)
    (Fails : Prop)
    (length : Nat)
    (accepted : Bool)
    (notices : List Notice) :
    Prop where
  of_failed : accepted = true → Fails → (alarms notices).length = 1
  of_sound : accepted = true → ¬Fails → alarms notices = []
  of_spent :
    accepted = false →
      cost?.isSome = true → (alarms notices).map Notice.severity = [.error]
  of_unsupported : cost? = none → accepted = false ∧ notices = []
  of_length :
    ∀ given size,
      .bufferLength given size ∈ notices →
        (∃ (medium : Medium) (drive : Drive medium), device = ofDrive drive) ∧
          given = length ∧ size = device.blockSize ∧ given ≠ size
  untruncated : ∀ magnitude, .magnitudeTruncated magnitude ∉ notices

namespace Reports

variable
  {device : Device}
  {cost : UInt64}
  {Fails : Prop}
  {length : Nat}
  {notices : List Notice}

/-- A transfer that the device does not have is not reported. -/
theorem unsupported : device.Reports none Fails length false [] where
  of_failed := Bool.noConfusion
  of_sound := Bool.noConfusion
  of_spent := fun _ => Bool.noConfusion
  of_unsupported := fun _ => ⟨rfl, rfl⟩
  of_length := fun _ _ member => absurd member List.not_mem_nil
  untruncated := fun _ => List.not_mem_nil

/-- A transfer that fails is reported well by plain notices with one alarm among them. -/
theorem failed
    (failed : Fails)
    (one : (alarms notices).length = 1)
    (plain : notices.all Notice.isPlain = true) :
    device.Reports (some cost) Fails length true notices where
  of_failed := fun _ _ => one
  of_sound := fun _ sound => absurd failed sound
  of_spent := Bool.noConfusion
  of_unsupported := fun without => absurd without (Option.some_ne_none cost)
  of_length := fun _ _ member => absurd (List.all_eq_true.1 plain _ member) Bool.false_ne_true
  untruncated := fun _ member => absurd (List.all_eq_true.1 plain _ member) Bool.false_ne_true

/-- A transfer that does not fail is reported well by plain notices without an alarm. -/
theorem sound
    (sound : ¬Fails)
    (none : alarms notices = [])
    (plain : notices.all Notice.isPlain = true) :
    device.Reports (some cost) Fails length true notices where
  of_failed := fun _ failed => absurd failed sound
  of_sound := fun _ _ => none
  of_spent := Bool.noConfusion
  of_unsupported := fun without => absurd without (Option.some_ne_none cost)
  of_length := fun _ _ member => absurd (List.all_eq_true.1 plain _ member) Bool.false_ne_true
  untruncated := fun _ member => absurd (List.all_eq_true.1 plain _ member) Bool.false_ne_true

end Reports

section Drives

variable
  {medium : Medium}
  (drive : Drive medium)

theorem geometry_ofDrive : (ofDrive drive).geometry = medium.geometry := by
  cases medium with
  | tape => rfl
  | disk => rfl

/-- A drive reports the transfer with the block first, and of that only the block is an alarm. -/
theorem reports_ofDrive
    {Fails : Prop}
    {accepted : Bool}
    {cost : UInt64}
    {length : Nat}
    {others : List Notice}
    (taken : accepted = true → drive.store.cursor < medium.geometry.blockCount)
    (refused :
      accepted = false → medium.geometry.blockCount ≤ drive.store.cursor ∧ others = [])
    (counted :
      accepted = true →
        (Fails → (alarms others).length = 1) ∧ (¬Fails → alarms others = []))
    (plain : others.all Notice.isPlain = true) :
    (ofDrive drive).Reports (some cost) Fails length accepted
      (drive.store.transferNotices drive.store.cursor length ++ others) where
  of_failed := by
    intro accepted
    rw [alarms_append, BlockStore.alarms_transferNotices, if_pos (taken accepted)]
    exact (counted accepted).1
  of_sound := by
    intro accepted
    rw [alarms_append, BlockStore.alarms_transferNotices, if_pos (taken accepted)]
    exact (counted accepted).2
  of_spent := by
    intro notAccepted _
    rcases refused notAccepted with ⟨outside, rfl⟩
    rw [List.append_nil, BlockStore.alarms_transferNotices,
      if_neg (Nat.not_lt_of_le outside)]
    rfl
  of_unsupported := fun without => absurd without (Option.some_ne_none cost)
  of_length := by
    intro given size member
    refine ⟨⟨medium, drive, rfl⟩, ?_⟩
    rcases List.mem_append.1 member with transfer | other
    · rcases drive.store.mem_transferNotices _ _ transfer with ⟨same, differs⟩ | other
      · rcases Notice.bufferLength.inj same with ⟨rfl, rfl⟩
        rw [blockSize, geometry_ofDrive]
        exact ⟨rfl, rfl, differs⟩
      · contradiction
    · exact absurd (List.all_eq_true.1 plain _ other) Bool.false_ne_true
  untruncated := by
    intro magnitude member
    rcases List.mem_append.1 member with transfer | other
    · rcases drive.store.mem_transferNotices _ _ transfer with ⟨same, -⟩ | same
      · contradiction
      · contradiction
    · exact absurd (List.all_eq_true.1 plain _ other) Bool.false_ne_true

/-- A drive behind its last block reports just that. -/
theorem reports_ofDrive_of_outside
    (outside : medium.geometry.blockCount ≤ drive.store.cursor)
    (Fails : Prop)
    (cost : UInt64)
    (length : Nat) :
    (ofDrive drive).Reports (some cost) Fails length false
      (drive.store.transferNotices drive.store.cursor length) := by
  rw [← List.append_nil (drive.store.transferNotices _ _)]
  exact reports_ofDrive drive Bool.noConfusion (fun _ => ⟨outside, rfl⟩) Bool.noConfusion rfl

theorem reports_input_ofDrive
    (now : UInt64)
    (buffer : Buffer) :
    (ofDrive drive).Reports (some Drive.readLatency) False buffer.size
      (drive.input now buffer).accepted (drive.input now buffer).notices := by
  rcases Nat.lt_or_ge drive.store.cursor medium.geometry.blockCount with inside | outside
  · have read :
        drive.store.readBlock? drive.store.cursor buffer =
          some (buffer.overlay 0 (drive.store.block drive.store.cursor)) :=
      if_pos inside
    simp only [Drive.input, read]
    exact
      reports_ofDrive drive (fun _ => inside) Bool.noConfusion
        (fun _ => ⟨False.elim, fun _ => rfl⟩) rfl
  · have read : drive.store.readBlock? drive.store.cursor buffer = none :=
      if_neg (Nat.not_lt_of_le outside)
    simp only [Drive.input, read, Answer.refused, Answer.received]
    exact reports_ofDrive_of_outside drive outside _ _ _

theorem reports_output_ofDrive
    (now : UInt64)
    (files : FileSystem)
    (buffer : Buffer) :
    (ofDrive drive).Reports (some Drive.writeLatency) (files.isWritable drive.path = false)
      buffer.size (drive.output now files buffer).accepted
      (drive.output now files buffer).notices := by
  rcases Nat.lt_or_ge drive.store.cursor medium.geometry.blockCount with inside | outside
  · obtain ⟨written, wrote⟩ :
        ∃ written, drive.store.writeBlock? drive.store.cursor buffer = some written :=
      ⟨_, if_pos inside⟩
    simp only [Drive.output, wrote, List.append_assoc]
    rcases
      files.notices_replace drive.path (Thunk.mk fun _ => Image.encode written.words)
        (.backingUnwritable drive.path)
      with ⟨sound, saving⟩ | ⟨cause, failed, saving⟩
    · rw [saving, sound]
      exact
        reports_ofDrive drive (fun _ => inside) Bool.noConfusion
          (fun _ => ⟨Bool.noConfusion, fun _ => rfl⟩) rfl
    · rw [saving]
      exact
        reports_ofDrive drive (fun _ => inside) Bool.noConfusion
          (fun _ => ⟨fun _ => rfl, absurd failed⟩) rfl
  · have wrote : drive.store.writeBlock? drive.store.cursor buffer = none :=
      if_neg (Nat.not_lt_of_le outside)
    simp only [Drive.output, wrote, Answer.refused, Answer.sent]
    exact reports_ofDrive_of_outside drive outside _ _ _

end Drives

section Transfers

variable
  (device : Device)
  (now : UInt64)
  (files : FileSystem)
  (buffer : Buffer)

theorem reports_input :
    device.Reports device.readCost? (device.InputFails files buffer) buffer.size
      (device.input now files buffer).accepted (device.input now files buffer).notices := by
  cases device with
  | tape unit => exact reports_input_ofDrive unit now buffer
  | disk unit => exact reports_input_ofDrive unit now buffer
  | cardReader unit =>
      rw [input, CardReader.input, InputFails]
      cases files.read (Card.path unit.deck unit.store.cursor) with
      | ok contents =>
          refine .sound ?_ rfl rfl
          rintro ⟨cause, failed⟩
          contradiction
      | error cause => exact .failed ⟨cause, rfl⟩ rfl rfl
  | typewriter unit =>
      have notices := (unit.input_eq_reads now buffer).2.2.2
      show Reports _ _ _ _ true (unit.input now buffer).notices
      rw [notices, InputFails]
      rcases Keyboard.notices_line_cases (5 * min buffer.size 14) unit.source with
        ⟨sound, none⟩ | ⟨cause, failed, one⟩
      · rw [none]
        refine .sound ?_ rfl rfl
        rintro ⟨cause, failed⟩
        exact sound cause failed
      · rw [one]
        exact .failed ⟨cause, failed⟩ rfl rfl
  | probe unit => exact .sound not_false rfl rfl
  | cardPunch unit => exact .unsupported
  | linePrinter unit => exact .unsupported
  | paperTape unit => exact .unsupported
  | inert unit => exact .unsupported

theorem reports_output :
    device.Reports device.writeCost? (device.OutputFails files buffer) buffer.size
      (device.output now files buffer).accepted (device.output now files buffer).notices := by
  cases device with
  | tape unit => exact reports_output_ofDrive unit now files buffer
  | disk unit => exact reports_output_ofDrive unit now files buffer
  | cardPunch unit =>
      simp only [output, CardPunch.output, OutputFails, Sent.map, Answer.map, Answer.sent]
      rcases files.notices_replace (Card.path unit.deck unit.store.cursor) _ _ with
        ⟨sound, saving⟩ | ⟨cause, failed, saving⟩
      · rw [saving, sound]
        exact .sound Bool.noConfusion rfl rfl
      · rw [saving]
        exact .failed failed rfl rfl
  | linePrinter unit =>
      simp only [output, LinePrinter.output, OutputFails, ← Sink.isSome_deliver_iff, Answer.map,
        Answer.sent]
      cases (unit.sink.deliver (LinePrinter.line buffer)).2 with
      | none => exact .sound Bool.noConfusion rfl rfl
      | some cause => exact .failed rfl rfl rfl
  | paperTape unit =>
      simp only [output, PaperTape.output, OutputFails, Sent.map, Answer.map, Answer.sent]
      rcases files.notices_replace unit.path _ _ with
        ⟨sound, saving⟩ | ⟨cause, failed, saving⟩
      · rw [saving, sound]
        split
        · exact .sound Bool.noConfusion rfl rfl
        · exact .sound Bool.noConfusion rfl rfl
      · rw [saving]
        split
        · exact .failed failed rfl rfl
        · exact .failed failed rfl rfl
  | probe unit => exact .sound not_false rfl rfl
  | cardReader unit => exact .unsupported
  | typewriter unit => exact .unsupported
  | inert unit => exact .unsupported

end Transfers

/-- A disk that is asked for a block reports that it does not have it, or nothing. -/
theorem notices_seek
    (disk : Disk)
    (block : Nat) :
    (block < 4000 ∧ (disk.seek block).accepted = true ∧ (disk.seek block).notices = []) ∨
      (4000 ≤ block ∧
        (disk.seek block).accepted = false ∧
          (disk.seek block).notices = [.seekOutside block]) := by
  rw [Drive.seek]
  split
  · next inside => exact Or.inl ⟨inside, rfl, rfl⟩
  · next outside => exact Or.inr ⟨Nat.le_of_not_lt outside, rfl, rfl⟩

/--
Alarms tell the truth, in whatever state a device, its files, its sink and its source are.  An
accepted transfer raises one alarm if what the device reads from or writes to failed it, and
none otherwise; a transfer with a block that is not there raises one, an error; a transfer that
the device does not have is not reported at all.  Only drives report the length of a buffer, and
only one that is not that of a block.  A control operation is reported by a disk that does not
have the block in question, as an error, and by nothing else.  No magnitude is ever reported
as cut off, and none is when a word is built of fields.
-/
theorem transfers_report_failures
    (device : Device)
    (now : UInt64)
    (files : FileSystem)
    (buffer : Buffer)
    (mode : UInt32) :
    let received := device.input now files buffer
    let sent := device.output now files buffer
    let obeyed := device.control mode
    device.Reports device.readCost? (device.InputFails files buffer) buffer.size
      received.accepted received.notices ∧
    device.Reports device.writeCost? (device.OutputFails files buffer) buffer.size
      sent.accepted sent.notices ∧
    ((∀ disk, device ≠ .disk disk) → obeyed.notices = []) ∧
    (∀ disk,
      device = .disk disk →
        obeyed.accepted = (disk.seek mode.toNat).accepted ∧
          obeyed.notices = (disk.seek mode.toNat).notices ∧
            ∀ block,
              let sought := disk.seek block
              (sought.accepted = true → sought.notices = []) ∧
                (sought.accepted = false →
                  4000 ≤ block ∧ sought.notices.map Notice.severity = [.error])) ∧
    (∀ fields,
      Word.ofFields fields = Word.truncate .positive (Word.pack fields) ∧
        Word.truncateNotices (Word.pack fields) = []) := by
  intro received sent obeyed
  refine
    ⟨device.reports_input now files buffer, device.reports_output now files buffer, ?_, ?_,
      Word.ofFields_eq_truncate⟩
  · intro other
    cases device with
    | disk unit => exact absurd rfl (other unit)
    | _ => rfl
  · rintro disk rfl
    refine ⟨rfl, rfl, ?_⟩
    intro block sought
    rcases notices_seek disk block with ⟨-, taken, nothing⟩ | ⟨outside, refused, one⟩
    · exact ⟨fun _ => nothing, fun no => Bool.noConfusion (taken.symm.trans no)⟩
    · exact
        ⟨fun yes => Bool.noConfusion (refused.symm.trans yes),
          fun _ => ⟨outside, congrArg (List.map Notice.severity) one⟩⟩

end Device

end MixUnits
