import Mathlib.Order.Bounds.Basic
import MixUnits.Device.Typewriter
import MixUnits.Proofs.Typing

/-!
# What a typewriter reads

A source answers one read after the other, and behind its last stroke every read finds the
end.  A record of up to `limit` characters is complete as soon as the reads have given so
many characters, or one of them has met a byte without a code, an end or a failure.  Reading
a line makes the least number of reads that complete a record, and everything that comes of
it is in these reads: the characters, whether an end was met, and what is reported.

An interrupted read gives nothing.  So sources that differ in interruptions only give the
same lines, one after the other, although the reads differ in number.
-/

namespace MixUnits

namespace Keystroke

/-- The code of the character that a read gives. -/
def code? : Keystroke → Option Code
  | .byte value => Code.ofByte? value
  | .ended | .interrupted | .failed _ => none

/-- Whether a read completes a record: it gives no character and was not interrupted. -/
def completes : Keystroke → Bool
  | .byte value => !Keyboard.hasCode value
  | .ended | .failed _ => true
  | .interrupted => false

/-- Whether a read shows that the source has come to its end or has failed. -/
def isEnd : Keystroke → Bool
  | .ended | .failed _ => true
  | .byte _ | .interrupted => false

/-- The report of a read that failed. -/
def warning? : Keystroke → Option Notice
  | .failed cause => some (.keyboardFailed cause)
  | .byte _ | .ended | .interrupted => none

end Keystroke

namespace Keyboard

/-- What the first `count` reads of a source give. -/
def reads : Nat → List Keystroke → List Keystroke
  | 0, _ => []
  | count + 1, source => source.headD .ended :: reads count source.tail

/-- Some reads complete a record of up to `limit` characters. -/
def Completes
    (limit : Nat)
    (strokes : List Keystroke) :
    Prop :=
  limit ≤ (strokes.filterMap Keystroke.code?).length ∨
    ∃ stroke ∈ strokes, stroke.completes = true

/-- The number of reads that reading a line makes. -/
def readCount : Nat → List Keystroke → Nat
  | 0, _ => 0
  | _ + 1, [] => 1
  | limit + 1, .interrupted :: rest => readCount (limit + 1) rest + 1
  | limit + 1, .byte value :: rest => if hasCode value then readCount limit rest + 1 else 1
  | _ + 1, .ended :: _ => 1
  | _ + 1, .failed _ :: _ => 1

theorem reads_add
    (count further : Nat)
    (source : List Keystroke) :
    reads (count + further) source = reads count source ++ reads further (source.drop count) := by
  induction count generalizing source with
  | zero => rw [Nat.zero_add, List.drop_zero, reads, List.nil_append]
  | succ count ih =>
      rw [Nat.add_right_comm, reads, reads, ih, List.cons_append, List.drop_tail]

@[simp]
theorem length_reads
    (count : Nat)
    (source : List Keystroke) :
    (reads count source).length = count := by
  induction count generalizing source with
  | zero => rfl
  | succ count ih => rw [reads, List.length_cons, ih]

/-- Reading a line is making its reads, and nothing else comes of it than is in them. -/
theorem line_eq_reads
    (limit : Nat)
    (source : List Keystroke) :
    line limit source =
      (let strokes := reads (readCount limit source) source
      { codes := strokes.filterMap Keystroke.code?
        rest := source.drop (readCount limit source)
        ended := strokes.any Keystroke.isEnd
        notices := strokes.filterMap Keystroke.warning? }) := by
  fun_induction readCount limit source with
  | case1 source => rfl
  | case2 limit => rfl
  | case3 limit rest ih =>
      have passed : line (limit + 1) (.interrupted :: rest) = line (limit + 1) rest := rfl
      rw [passed, ih]
      rfl
  | case4 limit value rest coded ih =>
      rcases Option.isSome_iff_exists.1 coded with ⟨code, found⟩
      have read : (Keystroke.byte value).code? = some code := found
      have following :
          line (limit + 1) (.byte value :: rest) =
            { line limit rest with codes := code :: (line limit rest).codes } :=
        line_of_code limit found
      rw [following, ih]
      simp only [reads, List.headD_cons, List.tail_cons, List.filterMap_cons_some read,
        List.drop_succ_cons]
      rfl
  | case5 limit value rest uncoded =>
      have missing : (Keystroke.byte value).code? = none := by
        rwa [hasCode, Bool.not_eq_true, Option.isSome_eq_false_iff, Option.isNone_iff_eq_none]
          at uncoded
      have stopped : line (limit + 1) (.byte value :: rest) = ⟨[], rest, false, []⟩ :=
        line_of_uncoded limit missing
      rw [stopped]
      simp only [reads, List.headD_cons, List.filterMap_cons_none missing]
      rfl
  | case6 limit rest => rfl
  | case7 limit cause rest => rfl

section Completion

variable
  {limit : Nat}
  (stroke : Keystroke)
  (strokes : List Keystroke)

theorem completes_zero : Completes 0 strokes :=
  Or.inl (Nat.zero_le _)

theorem not_completes_nil : ¬ Completes (limit + 1) [] := by
  rintro (enough | ⟨stroke, member, -⟩)
  · exact absurd enough (Nat.not_succ_le_zero limit)
  · contradiction

variable {stroke}

theorem completes_cons_of_completes (last : stroke.completes = true) :
    Completes limit (stroke :: strokes) :=
  Or.inr ⟨stroke, List.mem_cons_self, last⟩

/-- A stroke that completes nothing leaves the record to the strokes behind it. -/
theorem completes_cons_iff (ongoing : stroke.completes = false) :
    Completes limit (stroke :: strokes) ↔
      Completes (limit - stroke.code?.toList.length) strokes := by
  have others :
      (∃ other ∈ stroke :: strokes, other.completes = true) ↔
        ∃ other ∈ strokes, other.completes = true := by
    simp [ongoing]
  rw [Completes, Completes, others]
  cases coded : stroke.code? with
  | none => rw [List.filterMap_cons_none coded, Option.toList_none, List.length_nil, Nat.sub_zero]
  | some code =>
      rw [List.filterMap_cons_some coded, Option.toList_some, List.length_singleton,
        List.length_cons, Nat.sub_le_iff_le_add]

end Completion

/-- A first read that completes a record is all that is needed. -/
theorem isLeast_one
    {limit : Nat}
    {source : List Keystroke}
    (last : (source.headD .ended).completes = true) :
    IsLeast {count | Completes (limit + 1) (reads count source)} 1 := by
  refine ⟨completes_cons_of_completes _ last, ?_⟩
  intro count complete
  apply Nat.pos_of_ne_zero
  rintro rfl
  exact not_completes_nil complete

/-- A first read that completes no record has to be followed by the reads of what is missing. -/
theorem isLeast_succ
    {limit missing count : Nat}
    {stroke : Keystroke}
    {rest : List Keystroke}
    (ongoing : stroke.completes = false)
    (less : limit + 1 - stroke.code?.toList.length = missing)
    (least : IsLeast {count | Completes missing (reads count rest)} count) :
    IsLeast {count | Completes (limit + 1) (reads count (stroke :: rest))} (count + 1) := by
  subst less
  refine ⟨(completes_cons_iff _ ongoing).2 least.1, ?_⟩
  rintro (_ | further) complete
  · exact absurd complete not_completes_nil
  · exact Nat.succ_le_succ (least.2 ((completes_cons_iff _ ongoing).1 complete))

/-- Reading a line makes as many reads as complete a record, and not one more. -/
theorem isLeast_readCount
    (limit : Nat)
    (source : List Keystroke) :
    IsLeast {count | Completes limit (reads count source)} (readCount limit source) := by
  fun_induction readCount limit source with
  | case1 source => exact ⟨completes_zero _, fun _ _ => Nat.zero_le _⟩
  | case2 limit => exact isLeast_one rfl
  | case3 limit rest ih => exact isLeast_succ rfl rfl ih
  | case4 limit value rest coded ih =>
      refine isLeast_succ ?_ ?_ ih
      · rw [Keystroke.completes, coded, Bool.not_true]
      · rcases Option.isSome_iff_exists.1 coded with ⟨code, found⟩
        rw [Keystroke.code?, found, Option.toList_some, List.length_singleton,
          Nat.add_sub_cancel]
  | case5 limit value rest uncoded =>
      refine isLeast_one ?_
      rw [List.headD_cons, Keystroke.completes, Bool.not_eq_true] at *
      rw [uncoded, Bool.not_false]
  | case6 limit rest => exact isLeast_one rfl
  | case7 limit cause rest => exact isLeast_one rfl

/-- The first of some reads are the same if all of them are. -/
theorem reads_eq_of_le
    {few many : Nat}
    (le : few ≤ many)
    {source other : List Keystroke}
    (same : reads many other = reads many source) :
    reads few other = reads few source := by
  obtain ⟨further, rfl⟩ := Nat.exists_eq_add_of_le le
  rw [reads_add, reads_add] at same
  exact (List.append_inj same (by simp)).1

/-- What stands behind the reads of a line has no say in how many there are. -/
theorem readCount_eq_of_reads_eq
    {limit : Nat}
    {source other : List Keystroke}
    (same : reads (readCount limit source) other = reads (readCount limit source) source) :
    readCount limit other = readCount limit source := by
  have least := isLeast_readCount limit source
  refine (isLeast_readCount limit other).unique ⟨?_, ?_⟩
  · rw [Set.mem_ofPred_eq, same]
    exact least.1
  · intro count complete
    rcases Nat.lt_or_ge count (readCount limit source) with fewer | enough
    · rw [Set.mem_ofPred_eq, reads_eq_of_le (Nat.le_of_lt fewer) same] at complete
      exact least.2 complete
    · exact enough

/-- Two sources that answer every read alike. -/
def ReadsAlike (source other : List Keystroke) : Prop :=
  ∀ count, reads count source = reads count other

/-- The strokes of a source without the interruptions. -/
def uninterrupted (source : List Keystroke) : List Keystroke :=
  source.filter (· ≠ .interrupted)

/-- Two sources that answer every read alike once interruptions are passed over. -/
def SameButInterruptions (source other : List Keystroke) : Prop :=
  ReadsAlike (uninterrupted source) (uninterrupted other)

/-- Interruptions can be put anywhere. -/
theorem sameButInterruptions_insert
    (early late : List Keystroke)
    (count : Nat) :
    SameButInterruptions (early ++ late)
      (early ++ List.replicate count .interrupted ++ late) := by
  intro further
  simp [uninterrupted]

theorem ReadsAlike.drop
    {source other : List Keystroke}
    (alike : ReadsAlike source other)
    (count : Nat) :
    ReadsAlike (source.drop count) (other.drop count) := by
  intro further
  have same := alike (count + further)
  rw [reads_add, reads_add] at same
  exact (List.append_inj same (by simp)).2

/-- Sources that answer alike give the same line, and what they leave answers alike. -/
theorem line_of_readsAlike
    {source other : List Keystroke}
    (alike : ReadsAlike source other)
    (limit : Nat) :
    let line := Keyboard.line limit source
    let again := Keyboard.line limit other
    again.codes = line.codes ∧
      again.ended = line.ended ∧
        again.notices = line.notices ∧ ReadsAlike line.rest again.rest := by
  have count : readCount limit other = readCount limit source :=
    readCount_eq_of_reads_eq (alike _).symm
  simp only [line_eq_reads, count, alike (readCount limit source), true_and]
  exact alike.drop _

/-- A line is read as if there were no interruptions, and those behind it are left. -/
theorem line_uninterrupted
    (limit : Nat)
    (source : List Keystroke) :
    line limit (uninterrupted source) =
      { line limit source with rest := uninterrupted (line limit source).rest } := by
  fun_induction readCount limit source with
  | case1 source => rfl
  | case2 limit => rfl
  | case3 limit rest ih => exact ih
  | case4 limit value rest coded ih =>
      rcases Option.isSome_iff_exists.1 coded with ⟨code, found⟩
      have following (behind : List Keystroke) :
          line (limit + 1) (.byte value :: behind) =
            { line limit behind with codes := code :: (line limit behind).codes } :=
        line_of_code limit found
      have kept : uninterrupted (.byte value :: rest) = .byte value :: uninterrupted rest := rfl
      rw [kept, following, following, ih]
  | case5 limit value rest uncoded =>
      have missing : Code.ofByte? value = none := by
        rwa [hasCode, Bool.not_eq_true, Option.isSome_eq_false_iff, Option.isNone_iff_eq_none]
          at uncoded
      have stopped (behind : List Keystroke) :
          line (limit + 1) (.byte value :: behind) = ⟨[], behind, false, []⟩ :=
        line_of_uncoded limit missing
      have kept : uninterrupted (.byte value :: rest) = .byte value :: uninterrupted rest := rfl
      rw [kept, stopped, stopped]
  | case6 limit rest => rfl
  | case7 limit cause rest => rfl

/-- Interruptions make no difference to a line, and none to what is left for the next one. -/
theorem line_of_sameButInterruptions
    {source other : List Keystroke}
    (same : SameButInterruptions source other)
    (limit : Nat) :
    let line := Keyboard.line limit source
    let again := Keyboard.line limit other
    again.codes = line.codes ∧
      again.ended = line.ended ∧
        again.notices = line.notices ∧ SameButInterruptions line.rest again.rest := by
  have alike := line_of_readsAlike same limit
  rwa [line_uninterrupted, line_uninterrupted] at alike

/-- A line that is laid over a buffer takes the place of its first words, and of no others. -/
theorem getElem?_overlay_pack
    {count : Nat}
    {buffer : Buffer}
    (room : count ≤ buffer.size)
    (codes : List Code)
    (index : Nat) :
    (buffer.overlay 0 (pack count codes))[index]? =
      if index < count then
        some (Word.ofFields fun column => codes[5 * index + column.val]?.getD Code.blank)
      else
        buffer[index]? := by
  rw [Buffer.getElem?_overlay, Nat.sub_zero, getElem?_pack]
  by_cases within : index < count
  · rw [if_pos within, if_pos within,
      Array.getElem?_eq_getElem (Nat.lt_of_lt_of_le within room)]
    rfl
  · rw [if_neg within, if_neg within]
    cases buffer[index]? with
    | none => rfl
    | some word => rfl

end Keyboard

namespace Typewriter

/-- What an input gives back: the buffer, whether the source was seen to end, and the reports. -/
structure Reply where
  buffer : Buffer
  ended : Bool
  notices : List Notice

/-- What inputs at given moments into given buffers give back, one after the other. -/
def replies (typewriter : Typewriter) : List (UInt64 × Buffer) → List Reply
  | [] => []
  | (now, buffer) :: calls =>
    let received := typewriter.input now buffer
    ⟨received.buffer, received.unit.ended, received.notices⟩ :: received.unit.replies calls

/-- What an input comes to is in the reads that it makes. -/
theorem input_eq_reads
    (typewriter : Typewriter)
    (now : UInt64)
    (buffer : Buffer) :
    let words := min buffer.size 14
    let taken := Keyboard.readCount (5 * words) typewriter.source
    let strokes := Keyboard.reads taken typewriter.source
    let received := typewriter.input now buffer
    received.buffer =
        buffer.overlay 0 (Keyboard.pack words (strokes.filterMap Keystroke.code?)) ∧
      received.unit.source = typewriter.source.drop taken ∧
        received.unit.ended = (typewriter.ended || strokes.any Keystroke.isEnd) ∧
          received.notices = strokes.filterMap Keystroke.warning? := by
  have size : typewriterGeometry.blockSize = 14 := rfl
  simp only [input, size, Keyboard.line_eq_reads, and_self]

/-- Interruptions of its source make no difference to what a typewriter gives back. -/
theorem replies_of_sameButInterruptions
    {typewriter other : Typewriter}
    (same : Keyboard.SameButInterruptions typewriter.source other.source)
    (ended : other.ended = typewriter.ended)
    (calls : List (UInt64 × Buffer)) :
    other.replies calls = typewriter.replies calls := by
  induction calls generalizing typewriter other with
  | nil => rfl
  | cons call calls ih =>
      rcases call with ⟨now, buffer⟩
      rcases
        Keyboard.line_of_sameButInterruptions same
          (5 * min buffer.size typewriterGeometry.blockSize)
        with ⟨codes, met, notices, left⟩
      have later :
          (other.input now buffer).unit.ended = (typewriter.input now buffer).unit.ended := by
        simp only [input, ended, met]
      have filled :
          (other.input now buffer).buffer = (typewriter.input now buffer).buffer := by
        simp only [input, codes]
      have reported :
          (other.input now buffer).notices = (typewriter.input now buffer).notices := by
        simp only [input, notices]
      rw [replies, replies, ih left later, filled, later, reported]

/--
An input takes one record and leaves the next one alone.  It makes the least number of reads
that give a character for every place or meet a byte without a code, an end or a failure; what
stands behind them makes no difference and is left.  The characters become the fields, five to
a word with blanks behind the last, of as many positive words as a line has, and the other words
of the buffer are kept.  The end is remembered once it is met, and failures are what is reported.
Interruptions, wherever there are more or fewer of them, make no difference to what any calls
give back; so any number of them can be put anywhere.
-/
theorem input_takes_one_record
    (typewriter : Typewriter)
    (now : UInt64)
    (buffer : Buffer) :
    let words := min buffer.size 14
    let taken := Keyboard.readCount (5 * words) typewriter.source
    let strokes := Keyboard.reads taken typewriter.source
    let codes := strokes.filterMap Keystroke.code?
    let received := typewriter.input now buffer
    received.accepted = true ∧
    IsLeast
      {count | Keyboard.Completes (5 * words) (Keyboard.reads count typewriter.source)}
      taken ∧
    received.unit.source = typewriter.source.drop taken ∧
    (∀ other,
      Keyboard.reads taken other = strokes →
        let again := { typewriter with source := other }.input now buffer
        again.buffer = received.buffer ∧
          again.unit.ended = received.unit.ended ∧
            again.notices = received.notices ∧ again.unit.source = other.drop taken) ∧
    received.buffer.size = buffer.size ∧
    (∀ index,
      index < words →
        ∃ word,
          received.buffer[index]? = some word ∧
            word.sign = .positive ∧
              ∀ column,
                column < 5 →
                  word.field column = codes[5 * index + column]?.getD Code.blank) ∧
    (∀ index, words ≤ index → received.buffer[index]? = buffer[index]?) ∧
    received.unit.ended = (typewriter.ended || strokes.any Keystroke.isEnd) ∧
    received.notices = strokes.filterMap Keystroke.warning? ∧
    (∀ other,
      Keyboard.SameButInterruptions typewriter.source other →
        ∀ calls,
          { typewriter with source := other }.replies calls = typewriter.replies calls) ∧
    (∀ early late count,
      typewriter.source = early ++ late →
        ∀ calls,
          { typewriter with
            source := early ++ List.replicate count Keystroke.interrupted ++ late }.replies calls =
            typewriter.replies calls) := by
  intro words taken strokes codes received
  rcases typewriter.input_eq_reads now buffer with ⟨filled, left, ended, notices⟩
  have again
      {other : List Keystroke}
      (same : Keyboard.SameButInterruptions typewriter.source other) :
      ∀ calls, { typewriter with source := other }.replies calls = typewriter.replies calls :=
    @replies_of_sameButInterruptions typewriter { typewriter with source := other } same rfl
  refine
    ⟨rfl, Keyboard.isLeast_readCount _ _, left, ?_, ?_, ?_, ?_, ended, notices,
      fun _ => again, ?_⟩
  · intro other same again
    have count : Keyboard.readCount (5 * words) other = taken :=
      Keyboard.readCount_eq_of_reads_eq same
    rcases input_eq_reads { typewriter with source := other } now buffer with
      ⟨refilled, releft, reended, renotices⟩
    rw [count, same] at refilled reended renotices
    rw [count] at releft
    exact
      ⟨refilled.trans filled.symm, reended.trans ended.symm, renotices.trans notices.symm,
        releft⟩
  · rw [filled, Buffer.size_overlay]
  · intro index within
    rw [filled, Keyboard.getElem?_overlay_pack (Nat.min_le_left _ _), if_pos within]
    exact ⟨_, rfl, rfl, fun column inside => Word.field_ofFields _ ⟨column, inside⟩⟩
  · intro index beyond
    rw [filled, Keyboard.getElem?_overlay_pack (Nat.min_le_left _ _),
      if_neg (Nat.not_lt_of_le beyond)]
  · intro early late count split
    apply again
    rw [split]
    exact Keyboard.sameButInterruptions_insert early late count

end Typewriter

end MixUnits
