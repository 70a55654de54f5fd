import MixUnits.Job.Echo
import MixUnits.Program
import MixUnits.Proofs.Printing
import MixUnits.Proofs.Typing

/-!
# What an echo prints

An echo prints the records of what is typed, a line for each of them.  The last record,
which meets the end of the input, is printed only if there is something on it.

The invariant is about the input that is left, and about the buffer: the typewriter fills
the leading fourteen words of it, and the ten words behind them are never anything but
zero.  So a line shows its own record followed by blanks, and nothing of the record
before.  A wait changes nothing but the time, and every other turn takes one record.
-/

namespace MixUnits

namespace Transcript

/-- What is printed of the characters that met the end: nothing if they are blanks. -/
def closing (last : List UInt8) : List (List UInt8) :=
  if last.any (· ≠ 32) then [last] else []

/-- The records of a transcript that are printed, each by its characters. -/
def printed (transcript : Transcript) : List (List UInt8) :=
  transcript.records.map Record.characters ++ closing transcript.last

theorem printed_cons
    (record : Record)
    (transcript : Transcript) :
    (transcript.cons record).printed = record.characters :: transcript.printed :=
  rfl

theorem length_le_of_mem_printed
    {input characters : List UInt8}
    (printed : characters ∈ (of input).printed) :
    characters.length ≤ 70 := by
  have whole := isWhole_of input
  rcases List.mem_append.1 printed with early | last
  · rcases List.mem_map.1 early with ⟨record, member, rfl⟩
    have ending := (whole.records record member).ending
    split at ending
    · exact Nat.le_of_eq ending
    · exact Nat.le_of_lt ending.1
  · rw [closing] at last
    split at last
    · rw [List.mem_singleton.1 last]
      exact Nat.le_of_lt whole.short
    · contradiction

/-- A full line with a line feed behind it is a record followed by an empty one. -/
theorem printed_of_full_line
    {full : List UInt8}
    (whole : Record.IsWhole ⟨full, none⟩)
    (rest : List UInt8) :
    (of (full ++ 10 :: rest)).printed = full :: [] :: (of rest).printed := by
  have empty : Record.IsWhole ⟨[], some 10⟩ := ⟨nofun, by decide, by decide⟩
  have first := of_bytes_append whole (10 :: rest)
  have second := of_bytes_append empty rest
  rw [Record.bytes, Option.toList_none, List.append_nil] at first
  rw [Record.bytes, Option.toList_some, List.nil_append, List.singleton_append] at second
  rw [first, second, printed_cons, printed_cons]

end Transcript

namespace Echo

/-- The line of some characters: capitals, blanks up to the margin and a line feed. -/
def lineOf (characters : List UInt8) : List UInt8 :=
  characters.map Code.foldCase ++ List.replicate (120 - characters.length) 32 ++ [10]

theorem length_lineOf
    {characters : List UInt8}
    (few : characters.length ≤ 120) :
    (lineOf characters).length = 121 := by
  simp only [lineOf, List.length_append, List.length_map, List.length_replicate,
    List.length_singleton]
  omega

/-- The buffer after some characters were read into it. -/
def page (characters : List UInt8) : Buffer :=
  Keyboard.pack 24 (characters.map Code.ofByteOrBlank)

theorem line_page
    {characters : List UInt8}
    (coded : ∀ byte ∈ characters, Keyboard.hasCode byte = true)
    (few : characters.length ≤ 120) :
    LinePrinter.line (page characters) = lineOf characters := by
  have forms :
      (characters.map Code.ofByteOrBlank).map Code.toByte =
        characters.map Code.foldCase := by
    rw [List.map_map]
    apply List.map_congr_left
    intro byte member
    rcases Option.isSome_iff_exists.1 (coded byte member) with ⟨code, read⟩
    rw [Function.comp_apply, Code.ofByteOrBlank, read, Option.getD_some]
    exact (Code.toByte_of_ofByte? read).2
  have all : (page characters).toList.take 24 = (page characters).toList := by
    apply List.take_of_length_le
    simp [page]
  have short : (characters.map Code.ofByteOrBlank).length ≤ 5 * 24 := by
    rwa [List.length_map]
  rw [LinePrinter.line, printerGeometry, all, page, Keyboard.text_pack 24 _ short, forms,
    List.length_map]
  rfl

theorem all_page_iff
    {characters : List UInt8}
    (coded : ∀ byte ∈ characters, Keyboard.hasCode byte = true)
    (few : characters.length ≤ 120) :
    ((page characters).all fun word => word = .zero) = !characters.any (· ≠ 32) := by
  have short : (characters.map Code.ofByteOrBlank).length ≤ 5 * 24 := by
    rwa [List.length_map]
  have read (byte : UInt8) (member : byte ∈ characters) :
      Code.ofByteOrBlank byte = Code.blank ↔ byte = 32 := by
    rcases Option.isSome_iff_exists.1 (coded byte member) with ⟨code, read⟩
    rw [← Code.ofByte?_eq_some_blank_iff, Code.ofByteOrBlank, read, Option.getD_some,
      Option.some_inj]
  have blank := Keyboard.pack_blank_iff 24 _ short
  rw [Bool.eq_iff_iff, ← Array.all_toList, List.all_eq_true]
  simp only [decide_eq_true_eq, Bool.not_eq_true', List.any_eq_false,
    Decidable.not_not]
  rw [page, blank, List.forall_mem_map]
  constructor
  · intro blanks byte member
    exact (read byte member).1 (blanks byte member)
  · intro spaces byte member
    exact (read byte member).2 (spaces byte member)

/-- An echo that has printed a text and waits for some more input. -/
structure Awaits
    (echo : Echo)
    (input text : List UInt8) :
    Prop where
  source_eq : echo.typewriter.source = input.map .byte
  ongoing : echo.typewriter.ended = false
  margin : ∀ index, 14 ≤ index → index < 24 → echo.line[index]? = some .zero
  printed : echo.printer.HasPrinted text

theorem awaits_start (input : List UInt8) :
    (start (input.map .byte) ⟨.endless, [], 0, 0⟩).Awaits input [] where
  source_eq := rfl
  ongoing := rfl
  margin := by
    intro index _ within
    simp [start, Buffer.blank, printerGeometry, within]
  printed := ⟨rfl, rfl⟩

section Turns

variable
  {echo : Echo}
  {input text : List UInt8}

theorem awaits_await (waiting : echo.Awaits input text) : echo.await.Awaits input text :=
  ⟨waiting.source_eq, waiting.ongoing, waiting.margin, waiting.printed⟩

/-- What the typewriter reads is the line at the beginning of its source. -/
theorem typewriter_read (echo : Echo) :
    let typed := Keyboard.line 70 echo.typewriter.source
    echo.read.unit.typewriter.source = typed.rest ∧
      echo.read.unit.typewriter.ended = (echo.typewriter.ended || typed.ended) ∧
        echo.read.unit.line = echo.line.overlay 0 (Keyboard.pack 14 typed.codes) := by
  have room : (echo.line.slice 0 14).size = 14 := by
    rw [Buffer.size_slice, echo.size_line]
    rfl
  rcases echo.typewriter.input_of_size room echo.now with ⟨source, ended, filled, -⟩
  exact ⟨source, ended, congrArg (echo.line.overlay 0) filled⟩

/-- Reading leaves the record in the buffer and nothing else. -/
theorem line_read (waiting : echo.Awaits input text) :
    echo.read.unit.line = page (Keyboard.leading 70 input) := by
  have few : ((Keyboard.leading 70 input).map Code.ofByteOrBlank).length ≤ 5 * 14 := by
    rw [List.length_map]
    exact Keyboard.length_leading_le 70 input
  rcases echo.typewriter_read with ⟨-, -, line⟩
  rw [line, waiting.source_eq, Keyboard.codes_line_map_byte, page]
  exact Keyboard.overlay_pack 14 _ echo.size_line few waiting.margin

theorem length_codes_leading_le (input : List UInt8) :
    ((Keyboard.leading 70 input).map Code.ofByteOrBlank).length ≤ 70 := by
  rw [List.length_map]
  exact Keyboard.length_leading_le 70 input

theorem line_page_leading (input : List UInt8) :
    LinePrinter.line (page (Keyboard.leading 70 input)) =
      lineOf (Keyboard.leading 70 input) :=
  line_page (fun _ => Keyboard.hasCode_of_mem_leading 70 input)
    (Nat.le_trans (Keyboard.length_leading_le 70 input) (by decide))

theorem hasPrinted_print (waiting : echo.Awaits input text) :
    echo.read.unit.print.unit.printer.HasPrinted
      (text ++ lineOf (Keyboard.leading 70 input)) := by
  rcases LinePrinter.hasPrinted_output waiting.printed echo.now echo.read.unit.line with
    ⟨-, -, printed⟩
  rw [line_read waiting, line_page_leading] at printed
  rw [← line_read waiting] at printed
  exact printed

/-- A turn that does not meet the end prints a record and waits for the rest. -/
theorem awaits_turn
    (waiting : echo.Awaits input text)
    (ready : echo.isBusy = false)
    {rest : List UInt8}
    (left : (Keyboard.line 70 (input.map .byte)).rest = rest.map .byte)
    (more : (Keyboard.line 70 (input.map .byte)).ended = false) :
    echo.turn.ended = false ∧
      echo.turn.echo.Awaits rest (text ++ lineOf (Keyboard.leading 70 input)) := by
  rcases echo.typewriter_read with ⟨source, ended, -⟩
  rw [waiting.source_eq] at source ended
  rw [waiting.ongoing, more, Bool.false_or] at ended
  rw [turn_of_printed ready (by rw [ended, Bool.false_and])]
  refine ⟨ended, source.trans left, ended, ?_, hasPrinted_print waiting⟩
  intro index behind within
  have few := Nat.le_trans (length_codes_leading_le input) (Nat.mul_le_mul_left 5 behind)
  have line : echo.read.unit.print.unit.line = page (Keyboard.leading 70 input) :=
    line_read waiting
  rw [line, page, Keyboard.getElem?_pack_of_length_le 24 _ few within]

/-- The turn that meets the end prints what is left, unless it is blank. -/
theorem hasPrinted_turn_of_ended
    (waiting : echo.Awaits input text)
    (ready : echo.isBusy = false)
    (met : (Keyboard.line 70 (input.map .byte)).ended = true) :
    echo.turn.ended = true ∧
      echo.turn.echo.printer.HasPrinted
        (text ++ (Transcript.closing (Keyboard.leading 70 input)).flatMap lineOf) := by
  have bounded : (Keyboard.leading 70 input).length ≤ 120 :=
    Nat.le_trans (Keyboard.length_leading_le 70 input) (by decide)
  have blank : echo.read.unit.isBlank = !(Keyboard.leading 70 input).any (· ≠ 32) := by
    rw [isBlank, line_read waiting]
    exact all_page_iff (fun _ => Keyboard.hasCode_of_mem_leading 70 input) bounded
  rcases echo.typewriter_read with ⟨-, ended, -⟩
  rw [waiting.source_eq, met, Bool.or_true] at ended
  rw [Transcript.closing]
  cases shown : (Keyboard.leading 70 input).any (· ≠ 32) with
  | false =>
      rw [shown] at blank
      rw [turn_of_blank ready ended blank, if_neg Bool.false_ne_true, List.flatMap_nil,
        List.append_nil]
      exact ⟨rfl, waiting.printed⟩
  | true =>
      rw [shown] at blank
      rw [turn_of_printed ready (by rw [blank, Bool.not_true, Bool.and_false]), if_pos rfl,
        List.flatMap_singleton]
      exact ⟨ended, hasPrinted_print waiting⟩

end Turns

/-- A turn with ready units takes one record, or it meets the end and is the last one. -/
theorem turn_of_ready
    {echo : Echo}
    {input text : List UInt8}
    (waiting : echo.Awaits input text)
    (ready : echo.isBusy = false) :
    (echo.turn.ended = false ∧
        ∃ record rest,
          Transcript.of input = (Transcript.of rest).cons record ∧
            echo.turn.echo.Awaits rest (text ++ lineOf record.characters)) ∨
      (echo.turn.ended = true ∧
        echo.turn.echo.printer.HasPrinted
          (text ++ (Transcript.of input).printed.flatMap lineOf)) := by
  have typed := Keyboard.line_map_byte 70 input
  by_cases full : (Keyboard.leading 70 input).length = 70
  · simp only [full, if_true] at typed
    rcases awaits_turn waiting ready (congrArg Keyboard.Line.rest typed)
      (congrArg Keyboard.Line.ended typed) with ⟨more, waits⟩
    exact Or.inl ⟨more, _, _, Transcript.of_full full, waits⟩
  · simp only [full, if_false] at typed
    cases left : input.drop (Keyboard.leading 70 input).length with
    | nil =>
        simp only [left] at typed
        rcases hasPrinted_turn_of_ended waiting ready (congrArg Keyboard.Line.ended typed) with
          ⟨last, printed⟩
        rw [Transcript.of_ended full left]
        exact Or.inr ⟨last, printed⟩
    | cons stop rest =>
        simp only [left] at typed
        rcases awaits_turn waiting ready (congrArg Keyboard.Line.rest typed)
          (congrArg Keyboard.Line.ended typed) with ⟨more, waits⟩
        exact Or.inl ⟨more, _, _, Transcript.of_stopped full left, waits⟩

section Proceeding

variable
  {echo : Echo}
  {interrupted : Nat → Bool}
  {number : Nat}

theorem proceed_of_ongoing
    (free : interrupted number = false)
    (ongoing : echo.turn.ended = false)
    (notices : Array Notice) :
    echo.proceed interrupted number notices =
      echo.turn.echo.proceed interrupted (number + 1) (notices ++ echo.turn.notices) := by
  rw [proceed, if_neg (Bool.not_eq_true _ ▸ free), dif_pos ongoing]

theorem proceed_of_ended
    (free : interrupted number = false)
    (ended : echo.turn.ended = true)
    (notices : Array Notice) :
    echo.proceed interrupted number notices =
      (echo.turn.echo, notices ++ echo.turn.notices) := by
  rw [proceed, if_neg (Bool.not_eq_true _ ▸ free), dif_neg (Bool.not_eq_false _ ▸ ended)]

end Proceeding

/-- An echo that is not interrupted prints all records of the input that is left. -/
theorem hasPrinted_proceed
    {echo : Echo}
    {input text : List UInt8}
    (waiting : echo.Awaits input text)
    (number : Nat)
    (notices : Array Notice) :
    (echo.proceed (fun _ => false) number notices).1.printer.HasPrinted
      (text ++ (Transcript.of input).printed.flatMap lineOf) := by
  -- A turn changes the echo, the input that is left and the text at once, so the induction
  -- is on what there is still to do.
  induction toil : echo.toil using Nat.strongRecOn
    generalizing echo input text number notices with
  | ind toil ih =>
      subst toil
      cases busy : echo.isBusy with
      | true =>
          have waits := turn_of_busy busy
          have ongoing : echo.turn.ended = false := congrArg Turn.ended waits
          have waited : echo.turn.echo = echo.await := congrArg Turn.echo waits
          rw [proceed_of_ongoing rfl ongoing]
          exact ih _ (toil_turn_lt ongoing) (waited ▸ awaits_await waiting) _ _ rfl
      | false =>
          rcases turn_of_ready waiting busy with
            ⟨ongoing, record, rest, split, waits⟩ | ⟨ended, printed⟩
          · rw [proceed_of_ongoing rfl ongoing, split, Transcript.printed_cons, List.flatMap_cons,
              ← List.append_assoc]
            exact ih _ (toil_turn_lt ongoing) waits _ _ rfl
          · rw [proceed_of_ended rfl ended]
            exact printed

/-- An echo takes at most one turn more than its toil, so that a later interruption comes
too late. -/
theorem proceed_of_late
    {echo : Echo}
    {interrupted : Nat → Bool}
    {number : Nat}
    (late : ∀ other ≤ number + echo.toil, interrupted other = false)
    (notices : Array Notice) :
    echo.proceed interrupted number notices = echo.proceed (fun _ => false) number notices := by
  induction toil : echo.toil using Nat.strongRecOn generalizing echo number notices with
  | ind toil ih =>
      subst toil
      have free := late number (Nat.le_add_right _ _)
      cases ended : echo.turn.ended with
      | false =>
          have less := toil_turn_lt ended
          rw [proceed_of_ongoing free ended, proceed_of_ongoing rfl ended]
          refine ih _ less ?_ _ rfl
          intro other soon
          exact late other (by omega)
      | true => rw [proceed_of_ended free ended, proceed_of_ended rfl ended]

/--
What is typed is printed a record to a line, every line of a hundred and twenty characters
and a line feed, and no file changes.  The records are the one way to cut what is typed into
whole ones, with nothing left out and nothing used twice.  A full line with a line feed
behind it makes two of them, and the second one is empty.  The echo ends by itself: two turns
for a keystroke and one more are enough.  The program does the same whenever its arguments
ask for the echo, whatever it reports.
-/
theorem run_prints_records
    (files : FileSystem)
    (input : List UInt8) :
    let effect := Program.carryOut files input .echo
    let transcript := Transcript.of input
    effect.printed = transcript.printed.flatMap lineOf ∧
      (∀ characters ∈ transcript.printed, (lineOf characters).length = 121) ∧
      (∀ other, other = transcript ↔ other.IsWhole ∧ other.bytes = input) ∧
      (∀ full rest,
        input = full ++ 10 :: rest → Record.IsWhole ⟨full, none⟩ →
          effect.printed =
            lineOf full ++ lineOf [] ++ (Transcript.of rest).printed.flatMap lineOf) ∧
      (∀ interrupted : Nat → Bool,
        (∀ number ≤ 2 * input.length, interrupted number = false) →
          let echo := start (input.map .byte) ⟨.endless, [], 0, 0⟩
          echo.proceed interrupted 0 #[] = echo.finish) ∧
      effect.files = files ∧
      ∀ arguments least?,
        CommandLine.read arguments = .ok .echo →
          let outcome := Program.run arguments least? files input
          outcome.printed = effect.printed ∧
            outcome.files = effect.files ∧ outcome.exitCode = 0 := by
  intro effect transcript
  have printed : effect.printed = transcript.printed.flatMap lineOf :=
    (hasPrinted_proceed (awaits_start input) 0 #[]).text_eq
  refine ⟨printed, ?_, Transcript.eq_of_iff input, ?_, ?_, rfl, ?_⟩
  · intro characters member
    exact length_lineOf (Nat.le_trans (Transcript.length_le_of_mem_printed member) (by decide))
  · rintro full rest rfl whole
    rw [printed, Transcript.printed_of_full_line whole, List.flatMap_cons, List.flatMap_cons,
      List.append_assoc]
  · intro interrupted late
    refine proceed_of_late ?_ #[]
    intro other soon
    have fresh : (start (input.map .byte) ⟨.endless, [], 0, 0⟩).toil = 2 * input.length := by
      change 2 * (input.map Keystroke.byte).length + 0 = _
      rw [List.length_map, Nat.add_zero]
    rw [fresh, Nat.zero_add] at soon
    exact late other soon
  · intro arguments least? asked
    rw [Program.run, asked]
    exact ⟨rfl, rfl, rfl⟩

end Echo

end MixUnits
