import MixUnits.Proofs.DumpPastEnd
import MixUnits.Proofs.Operations

/-!
# Which dumps are begun

A dump is begun if both of its arguments are numbers and every block of its range can be
asked for; otherwise it is rejected.  What is rejected prints nothing and asks no unit for
anything, whatever requests were collected before the first bad block; it is reported as an
error.  What is begun asks for everything, in order, and prints five lines for every block,
whether or not the units accept what they are asked.
-/

namespace MixUnits

namespace Text.Decimal

/--
A text is a number in decimal digits, of which there is one at least, after at most one plus
sign, and the number has at most sixty-four bits.
-/
def Writes
    (text : String)
    (number : Nat) :
    Prop :=
  ∃ digits,
    (text.toList = digits ∨ text.toList = '+' :: digits) ∧
      digits ≠ [] ∧
        (∀ digit ∈ digits, digit.isDigit = true) ∧
          number = Nat.ofDigitChars 10 digits 0 ∧ number < 0x10000000000000000

/-- The number that a character stands for if it is a digit. -/
def digitValue (character : Char) : Nat :=
  character.toNat - '0'.toNat

theorem unsigned_cases (characters : List Char) :
    characters = unsigned characters ∨ characters = '+' :: unsigned characters := by
  rw [unsigned.eq_def]
  split
  · exact Or.inr rfl
  · exact Or.inl rfl

/-- Digits have no sign before them. -/
theorem unsigned_of_digits
    {digits : List Char}
    (only : ∀ digit ∈ digits, digit.isDigit = true) :
    unsigned digits = digits := by
  rw [unsigned.eq_def]
  split
  · exact absurd (only '+' List.mem_cons_self) (by decide)
  · rfl

theorem digit?_eq (character : Char) :
    digit? character = if character.isDigit then some (digitValue character) else none := by
  have same : ('0' ≤ character ∧ character ≤ '9') ↔ character.isDigit = true := by
    simp only [Char.isDigit, Bool.and_eq_true, decide_eq_true_eq]
    exact Iff.rfl
  rw [digit?, if_congr same rfl rfl]
  rfl

/-- Characters are read as digits if all of them are digits. -/
theorem mapM_digit? (characters : List Char) :
    characters.mapM digit? =
      if characters.all Char.isDigit then some (characters.map digitValue) else none := by
  induction characters with
  | nil => rfl
  | cons character rest ih =>
      rw [List.mapM_cons, digit?_eq, ih, List.all_cons]
      cases character.isDigit with
      | false => rfl
      | true =>
          cases rest.all Char.isDigit with
          | false => rfl
          | true => rfl

theorem value_map_digitValue (digits : List Char) :
    value (digits.map digitValue) = Nat.ofDigitChars 10 digits 0 := by
  rw [value, List.foldl_map, Nat.ofDigitChars]
  simp only [Nat.mul_comm, digitValue]

/-- What is read of a text depends on the digits behind its sign. -/
theorem read?_eq
    {text : String}
    {digits : List Char}
    (behind : unsigned text.toList = digits) :
    read? text =
      if digits ≠ [] ∧ digits.all Char.isDigit ∧ Nat.ofDigitChars 10 digits 0 < bound then
        some (Nat.ofDigitChars 10 digits 0)
      else
        none := by
  rw [read?, behind, mapM_digit?, ← value_map_digitValue]
  cases digits with
  | nil => rfl
  | cons first rest =>
      cases only : (first :: rest).all Char.isDigit with
      | false => rfl
      | true => simp

/-- A text is read as the number that it writes. -/
theorem read?_eq_some_iff
    (text : String)
    (number : Nat) :
    read? text = some number ↔ Writes text number := by
  constructor
  · intro read
    rw [read?_eq rfl, Option.ite_none_right_eq_some, Option.some.injEq] at read
    rcases read with ⟨⟨filled, only, few⟩, rfl⟩
    exact ⟨_, unsigned_cases _, filled, List.all_eq_true.1 only, rfl, few⟩
  · rintro ⟨digits, signed, filled, only, rfl, few⟩
    have behind : unsigned text.toList = digits := by
      rcases signed with plain | signed
      · rw [plain, unsigned_of_digits only]
      · rw [signed]
        rfl
    rw [read?_eq behind, if_pos ⟨filled, List.all_eq_true.2 only, few⟩]

example :
    read? "+007" = some 7 ∧ read? "+" = none ∧ read? "-0" = none ∧
      read? "18446744073709551616" = none := by
  decide

/-- A text writes no other number than the one that is read. -/
theorem Writes.eq_of_read?
    {text : String}
    {number other : Nat}
    (writes : Writes text other)
    (read : read? text = some number) :
    other = number :=
  Option.some.inj (((read?_eq_some_iff text other).2 writes).symm.trans read)

/-- A text is read as no number if it writes none. -/
theorem read?_eq_none_iff (text : String) :
    read? text = none ↔ ¬∃ number, Writes text number := by
  rw [Option.eq_none_iff_forall_ne_some, not_exists]
  exact forall_congr' fun number => not_congr (read?_eq_some_iff text number)

end Text.Decimal

namespace Dump

open MixUnits.Text

/--
Why a dump is rejected: an argument is no number, the range does not end below the largest
machine word, or it has a disk block whose number does not fit into a control mode.
-/
inductive Rejects
    (medium : Medium)
    (startText countText : String) :
    Prop where
  | start (unwritten : ¬∃ start, Decimal.Writes startText start)
  | count (unwritten : ¬∃ count, Decimal.Writes countText count)
  | range
      {start count : Nat}
      (first : Decimal.Writes startText start)
      (many : Decimal.Writes countText count)
      (far : 0x10000000000000000 ≤ start + count)
  | block
      {start count block : Nat}
      (first : Decimal.Writes startText start)
      (many : Decimal.Writes countText count)
      (disk : medium = .disk)
      (behind : start ≤ block)
      (before : block < start + count)
      (far : 0x100000000 ≤ block)

/-- A byte that a word can be printed with. -/
def IsForm (byte : UInt8) : Prop :=
  byte ∈ Code.forms ∨ byte = Code.unassignedForm

/-- A text is some lines of a hundred and twenty characters, with a line feed behind each. -/
def IsPrintout
    (count : Nat)
    (text : List UInt8) :
    Prop :=
  ∃ lines : List (List UInt8),
    lines.length = count ∧
      text = lines.flatMap (· ++ [10]) ∧
        ∀ line ∈ lines, line.length = 120 ∧ ∀ byte ∈ line, IsForm byte

section Printout

variable
  {text other : List UInt8}
  {count more : Nat}

theorem isPrintout_append
    (one : IsPrintout count text)
    (next : IsPrintout more other) :
    IsPrintout (count + more) (text ++ other) := by
  rcases one with ⟨lines, length, rfl, formed⟩
  rcases next with ⟨others, lengths, rfl, informed⟩
  refine ⟨lines ++ others, ?_, List.flatMap_append.symm, ?_⟩
  · rw [List.length_append, length, lengths]
  · intro line member
    exact (List.mem_append.1 member).elim (formed line) (informed line)

/-- Texts with as many lines each make a text with that many lines for each of them. -/
theorem isPrintout_flatMap
    {texts : Nat → List UInt8}
    (each : ∀ index, IsPrintout count (texts index))
    (indices : List Nat) :
    IsPrintout (count * indices.length) (indices.flatMap texts) := by
  induction indices with
  | nil => exact ⟨[], rfl, rfl, nofun⟩
  | cons index rest ih =>
      rw [List.flatMap_cons, List.length_cons, Nat.mul_succ, Nat.add_comm]
      exact isPrintout_append (each index) ih

theorem isForm_toByte (code : Code) : IsForm code.toByte := by
  rw [Code.toByte]
  cases found : Code.forms[code.val]? with
  | none => exact Or.inr rfl
  | some form => exact Or.inl (List.mem_of_getElem? found)

theorem isForm_of_mem_text
    {word : Word}
    {byte : UInt8}
    (member : byte ∈ word.text) :
    IsForm byte := by
  rcases List.mem_map.1 member with ⟨code, -, rfl⟩
  exact isForm_toByte code

end Printout

section Blocks

variable
  (files : FileSystem)
  (path : String)
  (block : Nat)

theorem isForm_of_mem_wordText
    {offset : Nat}
    {byte : UInt8}
    (member : byte ∈ wordText files path block offset) :
    IsForm byte := by
  rw [wordText_eq_text] at member
  split at member
  · exact isForm_of_mem_text member
  · rw [List.eq_of_mem_replicate member]
    exact Or.inl (by decide)

/-- Whatever a line of a block holds, it is a line. -/
theorem isPrintout_lineText (line : Nat) :
    IsPrintout 1 (lineText files path block line) := by
  refine
    ⟨[(List.range 24).flatMap fun column => wordText files path block (24 * line + column)],
      rfl, (List.flatMap_singleton _ _).symm, ?_⟩
  intro characters member
  obtain rfl := List.mem_singleton.1 member
  constructor
  · simp only [List.length_flatMap, length_wordText]
    rfl
  · intro byte among
    rcases List.mem_flatMap.1 among with ⟨column, -, here⟩
    exact isForm_of_mem_wordText files path block here

theorem isPrintout_blockText : IsPrintout 5 (blockText files path block) :=
  isPrintout_flatMap (isPrintout_lineText files path block) (List.range 5)

end Blocks

section Plan

variable {medium : Medium}

/-- Adds the requests for some blocks to others, unless there is a block that has no name. -/
def collect
    (medium : Medium)
    (requests : List Request) :
    List Nat → Except Notice (List Request)
  | [] => .ok requests
  | block :: rest =>
    if medium = .disk ∧ modeLimit ≤ block then
      .error (.blockUnaddressable block)
    else
      collect medium (requests ++ blockRequests medium block) rest

/--
The requests of a dump, collected one block after the other.  Those to space a tape are there
before the range is looked at, and what is there is given up with the first bad block.
-/
def plan (dump : Dump) : Except Notice (List Request) :=
  let spacing := dump.spacing
  if rangeLimit ≤ dump.start + dump.count then
    .error (.rangeOutside dump.count dump.start)
  else
    collect dump.medium spacing (List.range' dump.start dump.count)

/-- Blocks that follow one another can be collected if the last of them has a name. -/
theorem collect_range'
    (requests : List Request)
    (block count : Nat) :
    collect medium requests (List.range' block count) =
      if medium = .disk ∧ 0 < count ∧ modeLimit < block + count then
        .error (.blockUnaddressable (max block modeLimit))
      else
        .ok (requests ++ (List.range' block count).flatMap (blockRequests medium)) := by
  induction count generalizing requests block with
  | zero =>
      rw [if_neg fun bad => Nat.lt_irrefl 0 bad.2.1, List.range'_zero, List.flatMap_nil,
        List.append_nil]
      rfl
  | succ count ih =>
      rw [List.range'_succ, collect]
      by_cases unnamed : medium = .disk ∧ modeLimit ≤ block
      · have bad : medium = .disk ∧ 0 < count + 1 ∧ modeLimit < block + (count + 1) :=
          ⟨unnamed.1, count.succ_pos,
            Nat.lt_of_le_of_lt unnamed.2 (Nat.lt_add_of_pos_right count.succ_pos)⟩
        rw [if_pos unnamed, if_pos bad, Nat.max_eq_left unnamed.2]
      · rw [if_neg unnamed, ih]
        -- With a name for this block the first bad block is the same with or without it.
        have later :
            (medium = .disk ∧ 0 < count ∧ modeLimit < block + 1 + count) ↔
              medium = .disk ∧ 0 < count + 1 ∧ modeLimit < block + (count + 1) := by
          refine and_congr_right fun disk => ?_
          have named : block < modeLimit := Nat.lt_of_not_le fun far => unnamed ⟨disk, far⟩
          omega
        by_cases bad : medium = .disk ∧ 0 < count ∧ modeLimit < block + 1 + count
        · have named : block < modeLimit := Nat.lt_of_not_le fun far => unnamed ⟨bad.1, far⟩
          rw [if_pos bad, if_pos (later.1 bad), Nat.max_eq_right named,
            Nat.max_eq_right (Nat.le_of_lt named)]
        · rw [if_neg bad, if_neg (fun also => bad (later.2 also)), List.flatMap_cons,
            List.append_assoc]

/-- What keeps a dump from being begun is what comes up when its requests are collected. -/
theorem plan_eq (dump : Dump) :
    dump.plan =
      match dump.obstacle? with
      | some obstacle => .error obstacle
      | none => .ok dump.requests := by
  rw [plan, obstacle?]
  by_cases late : rangeLimit ≤ dump.start + dump.count
  · simp only [if_pos late]
  · simp only [if_neg late, collect_range']
    split
    · rfl
    · rfl

end Plan

section Obstacle

variable {dump : Dump}

/-- A dump has an obstacle if its range ends too late or has a block that cannot be named. -/
theorem obstacle?_ne_none_iff :
    dump.obstacle? ≠ none ↔
      rangeLimit ≤ dump.start + dump.count ∨
        dump.medium = .disk ∧
          ∃ block, dump.start ≤ block ∧ block < dump.start + dump.count ∧ modeLimit ≤ block := by
  have asked :
      (0 < dump.count ∧ modeLimit < dump.start + dump.count) ↔
        ∃ block,
          dump.start ≤ block ∧ block < dump.start + dump.count ∧ modeLimit ≤ block := by
    constructor
    · rintro ⟨filled, far⟩
      exact
        ⟨max dump.start modeLimit, Nat.le_max_left _ _,
          Nat.max_lt.2 ⟨Nat.lt_add_of_pos_right filled, far⟩, Nat.le_max_right _ _⟩
    · rintro ⟨block, behind, before, far⟩
      omega
  rw [obstacle?, ← asked]
  split
  · next late => exact iff_of_true (Option.some_ne_none _) (Or.inl late)
  · next early =>
      rw [or_iff_right early]
      split
      · next far => exact iff_of_true (Option.some_ne_none _) far
      · next near => exact iff_of_false (fun differs => differs rfl) near

/-- An obstacle is reported as an error. -/
theorem severity_obstacle
    {obstacle : Notice}
    (found : dump.obstacle? = some obstacle) :
    obstacle.severity = .error ∧ obstacle.operation? = none := by
  rw [obstacle?] at found
  split at found
  · rw [← Option.some.inj found]
    exact ⟨rfl, rfl⟩
  · split at found
    · rw [← Option.some.inj found]
      exact ⟨rfl, rfl⟩
    · contradiction

/-- A dump with an obstacle leaves the machine as it was mounted. -/
theorem run_of_obstacle
    (files : FileSystem)
    (sink : Sink)
    {obstacle : Notice}
    (found : dump.obstacle? = some obstacle) :
    dump.run files sink =
      ((dump.machine files sink).1, (dump.machine files sink).2 ++ [obstacle]) := by
  rw [run, found]

end Obstacle

section Operations

variable
  (dump : Dump)
  (files : FileSystem)
  (sink : Sink)

theorem operations_machine : operations (dump.machine files sink).2 = [] := by
  rcases dump with ⟨medium, path, start, count⟩
  cases medium with
  | tape => exact @Drive.operations_mount .tape files path
  | disk => exact @Drive.operations_mount .disk files path

theorem device?_machine_unitOf :
    ((dump.machine files sink).1.device? (unitOf dump.medium)).isSome = true := by
  rcases dump with ⟨medium, path, start, count⟩
  cases medium with
  | tape => rfl
  | disk => rfl

/-- Both units of a dump have devices, so each of its requests is an operation. -/
theorem isAttached_of_mem_requests
    {request : Request}
    (member : request ∈ dump.requests) :
    (dump.machine files sink).1.isAttached request = true := by
  rw [Machine.isAttached]
  rcases mem_requests_cases member with printer | ⟨medium, -⟩
  · rw [printer, device?_machine_linePrinter]
    rfl
  · rw [medium]
    exact dump.device?_machine_unitOf files sink

/-- A dump that is begun asks its units for everything, once and in order. -/
theorem operations_run_of_begun (begun : dump.obstacle? = none) :
    operations (dump.run files sink).2 = dump.requests := by
  simp only [run, begun]
  rw [operations_append, operations_machine, List.nil_append, Channel.operations_run]
  exact List.filter_eq_self.2 fun _ => dump.isAttached_of_mem_requests files sink

end Operations

/-- The effect of a dump that is rejected: an error is reported, and that is all. -/
structure IsRejection
    (files : FileSystem)
    (effect : Program.Effect) :
    Prop where
  printed : effect.printed = []
  files : effect.files = files
  operations : operations effect.notices = []
  reported : ∃ notice ∈ effect.notices, notice.severity = .error

/--
The effect of a dump that is begun: five lines for every block, and every request that was
collected was put to its unit.
-/
structure IsCompleted
    (dump : Dump)
    (files : FileSystem)
    (effect : Program.Effect) :
    Prop where
  printed : IsPrintout (5 * dump.count) effect.printed
  files : effect.files = files
  planned : dump.plan = .ok dump.requests
  operations : operations effect.notices = dump.requests

section Commands

variable
  (files : FileSystem)
  (input : List UInt8)
  (medium : Medium)
  (path startText countText : String)

theorem isRejection_of_unread
    (unread : Decimal.read? startText = none ∨ Decimal.read? countText = none) :
    IsRejection files (Program.carryOut files input (.dump medium path startText countText)) := by
  simp only [Program.carryOut, Program.number]
  cases first : Decimal.read? startText with
  | none =>
      cases Decimal.read? countText with
      | none => exact ⟨rfl, rfl, rfl, _, List.mem_cons_self, rfl⟩
      | some count => exact ⟨rfl, rfl, rfl, _, List.mem_cons_self, rfl⟩
  | some start =>
      rw [unread.resolve_left (first ▸ Option.some_ne_none start)]
      exact ⟨rfl, rfl, rfl, _, List.mem_cons_self, rfl⟩

/-- The effect of a dump with an obstacle is what is reported of loading and of the obstacle. -/
theorem carryOut_of_obstacle
    {dump : Dump}
    {obstacle : Notice}
    (first : Decimal.read? startText = some dump.start)
    (many : Decimal.read? countText = some dump.count)
    (found : dump.obstacle? = some obstacle) :
    Program.carryOut files input (.dump dump.medium dump.path startText countText) =
      ⟨[], files, (dump.machine files ⟨.endless, [], 0, 0⟩).2 ++ [obstacle]⟩ := by
  have unprinted :
      Program.printedBy (dump.machine files ⟨.endless, [], 0, 0⟩).1 = [] := by
    rw [Program.printedBy, device?_machine_linePrinter]
    rfl
  simp only [Program.carryOut, Program.number, first, many, run_of_obstacle files _ found,
    unprinted]
  rfl

theorem isRejection_of_obstacle
    {dump : Dump}
    {obstacle : Notice}
    (first : Decimal.read? startText = some dump.start)
    (many : Decimal.read? countText = some dump.count)
    (found : dump.obstacle? = some obstacle) :
    let effect :=
      Program.carryOut files input (.dump dump.medium dump.path startText countText)
    IsRejection files effect ∧ dump.plan = .error obstacle ∧ obstacle ∈ effect.notices := by
  rcases severity_obstacle found with ⟨error, silent⟩
  have last (notices : List Notice) : obstacle ∈ notices ++ [obstacle] :=
    List.mem_append_right notices List.mem_cons_self
  intro effect
  simp only [effect, carryOut_of_obstacle files input startText countText first many found]
  refine ⟨⟨rfl, rfl, ?_, obstacle, last _, error⟩, ?_, last _⟩
  · rw [operations_append, operations_machine]
    exact List.filterMap_cons_none silent
  · rw [plan_eq, found]

theorem isCompleted_of_begun
    {dump : Dump}
    (first : Decimal.read? startText = some dump.start)
    (many : Decimal.read? countText = some dump.count)
    (begun : dump.obstacle? = none) :
    dump.IsCompleted files
      (Program.carryOut files input (.dump dump.medium dump.path startText countText)) where
  printed := by
    have blocks :=
      isPrintout_flatMap (fun block => isPrintout_blockText files dump.path (dump.shown block))
        (List.range' dump.start dump.count)
    rwa [List.length_range', ← printed_carryOut_of_begun first many begun files input] at blocks
  files := by
    simp only [Program.carryOut, Program.number, first, many]
    exact dump.files_run files _
  planned := by rw [plan_eq, begun]
  operations := by
    simp only [Program.carryOut, Program.number, first, many]
    exact dump.operations_run_of_begun files _ begun

/-- Numbers that can be read are rejected for what keeps their range from being printed. -/
theorem rejects_iff_obstacle?
    {dump : Dump}
    (first : Decimal.read? startText = some dump.start)
    (many : Decimal.read? countText = some dump.count) :
    Rejects dump.medium startText countText ↔ dump.obstacle? ≠ none := by
  have writesStart := (Decimal.read?_eq_some_iff _ _).1 first
  have writesCount := (Decimal.read?_eq_some_iff _ _).1 many
  rw [obstacle?_ne_none_iff]
  constructor
  · rintro (unwritten | unwritten | ⟨one, other, far⟩ |
      ⟨one, other, disk, behind, before, far⟩)
    · exact absurd ⟨_, writesStart⟩ unwritten
    · exact absurd ⟨_, writesCount⟩ unwritten
    · obtain rfl := one.eq_of_read? first
      obtain rfl := other.eq_of_read? many
      exact Or.inl far
    · obtain rfl := one.eq_of_read? first
      obtain rfl := other.eq_of_read? many
      exact Or.inr ⟨disk, _, behind, before, far⟩
  · rintro (far | ⟨disk, block, behind, before, far⟩)
    · exact .range writesStart writesCount far
    · exact .block writesStart writesCount disk behind before far

end Commands

/--
A dump is all or nothing in its arguments.  If one of them is no number, or the range does not
end below the largest machine word, or a disk block of it cannot be named, then nothing is
printed, no unit is asked for anything and an error is reported.  The requests that were
collected until then are given up, with the obstacle as the error, and the machine stays as it
was mounted.  In all other cases, whatever the file holds and however far the range goes, five
lines are printed for every block, and every request that was collected is put to its unit,
once and in order.  Files never change.
-/
theorem carryOut_is_all_or_nothing
    (files : FileSystem)
    (input : List UInt8)
    (medium : Medium)
    (path startText countText : String) :
    let effect := Program.carryOut files input (.dump medium path startText countText)
    (Rejects medium startText countText →
      IsRejection files effect ∧
        ∀ start count,
          Decimal.Writes startText start →
            Decimal.Writes countText count →
              let dump : Dump := ⟨medium, path, start, count⟩
              let sink : Sink := ⟨.endless, [], 0, 0⟩
              (∃ obstacle, dump.plan = .error obstacle ∧ obstacle ∈ effect.notices) ∧
                (dump.run files sink).1 = (dump.machine files sink).1) ∧
    (¬Rejects medium startText countText →
      ∃ start count,
        Decimal.Writes startText start ∧
          Decimal.Writes countText count ∧
            IsCompleted ⟨medium, path, start, count⟩ files effect) := by
  intro effect
  cases first : Decimal.read? startText with
  | none =>
      have unwritten := (Decimal.read?_eq_none_iff startText).1 first
      refine
        ⟨fun _ => ⟨isRejection_of_unread _ _ _ _ _ _ (Or.inl first), ?_⟩,
          fun begun => absurd (.start unwritten) begun⟩
      exact fun start _ writes => absurd ⟨start, writes⟩ unwritten
  | some start =>
      cases many : Decimal.read? countText with
      | none =>
          have unwritten := (Decimal.read?_eq_none_iff countText).1 many
          refine
            ⟨fun _ => ⟨isRejection_of_unread _ _ _ _ _ _ (Or.inr many), ?_⟩,
              fun begun => absurd (.count unwritten) begun⟩
          exact fun _ count _ writes => absurd ⟨count, writes⟩ unwritten
      | some count =>
          have rejects :=
            @rejects_iff_obstacle? startText countText ⟨medium, path, start, count⟩ first many
          cases found : (⟨medium, path, start, count⟩ : Dump).obstacle? with
          | none =>
              refine ⟨fun rejected => absurd found (rejects.1 rejected), fun _ => ?_⟩
              exact
                ⟨start, count, (Decimal.read?_eq_some_iff _ _).1 first,
                  (Decimal.read?_eq_some_iff _ _).1 many,
                  isCompleted_of_begun files input startText countText first many found⟩
          | some obstacle =>
              rcases
                @isRejection_of_obstacle files input startText countText
                  ⟨medium, path, start, count⟩ obstacle first many found
                with ⟨rejection, planned, reported⟩
              refine ⟨fun _ => ⟨rejection, ?_⟩, fun begun => ?_⟩
              · intro other more writesStart writesCount
                obtain rfl := writesStart.eq_of_read? first
                obtain rfl := writesCount.eq_of_read? many
                intro dump sink
                rw [run_of_obstacle files sink found]
                exact ⟨⟨obstacle, planned, reported⟩, rfl⟩
              · exact absurd (rejects.2 (found ▸ Option.some_ne_none obstacle)) begun

/-- A single block can be dumped up to the last number that a control mode has. -/
example :
    obstacle? ⟨.disk, "d", 4294967295, 1⟩ = none ∧
      obstacle? ⟨.disk, "d", 4294967295, 2⟩ = some (.blockUnaddressable 4294967296) := by
  decide

end Dump

end MixUnits
