import MixUnits.Buffer

/-!
# Keyboard input

A source of keystrokes is a list of events: bytes, ends of input, interruptions and
failures.  An interruption is passed over.  A record is what one reading of a line
takes: characters up to a limit, or up to the first byte without a code, which is
taken too, or up to the first end or failure.
-/

namespace MixUnits

/-- One event of a source; after the last one the source is at its end. -/
inductive Keystroke where
  | byte (value : UInt8)
  | ended
  | interrupted
  | failed (cause : String)
  deriving DecidableEq, Repr

namespace Keyboard

/-- One character read: its code if it has one, and what is left of the source. -/
structure Stroke where
  code? : Option Code
  rest : List Keystroke
  ended : Bool
  notices : List Notice

/-- Reads one character. -/
def next : List Keystroke → Stroke
  | [] => ⟨none, [], true, []⟩
  | .byte value :: rest => ⟨Code.ofByte? value, rest, false, []⟩
  | .ended :: rest => ⟨none, rest, true, []⟩
  | .interrupted :: rest => next rest
  | .failed cause :: rest => ⟨none, rest, true, [.keyboardFailed cause]⟩

/-- A line read: its characters, and what is left of the source. -/
structure Line where
  codes : List Code
  rest : List Keystroke
  ended : Bool
  notices : List Notice

/-- Reads a line of at most `limit` characters. -/
def line
    (limit : Nat)
    (source : List Keystroke) :
    Line :=
  match limit with
  | 0 => ⟨[], source, false, []⟩
  | limit + 1 =>
    let stroke := next source
    match stroke.code? with
    | none => ⟨[], stroke.rest, stroke.ended, stroke.notices⟩
    | some code =>
      let following := line limit stroke.rest
      { following with codes := code :: following.codes }

/-- Packs characters five to a word into `count` words, with blanks at the end. -/
def pack
    (count : Nat)
    (codes : List Code) :
    Buffer :=
  Array.ofFn (n := count) fun index =>
    Word.ofFields fun column => codes[5 * index.val + column.val]?.getD Code.blank

@[simp]
theorem size_pack
    (count : Nat)
    (codes : List Code) :
    (pack count codes).size = count := by
  simp [pack]

theorem length_rest_next_le (source : List Keystroke) :
    (next source).rest.length ≤ source.length := by
  fun_induction next source <;> grind

/-- Reading a character uses up the source unless the source ends there. -/
theorem length_rest_next_lt
    {source : List Keystroke}
    (ongoing : (next source).ended = false) :
    (next source).rest.length < source.length := by
  fun_induction next source <;> grind

/-- A line ends at the first stroke without a code. -/
theorem line_of_uncoded
    {source : List Keystroke}
    (limit : Nat)
    (uncoded : (next source).code? = none) :
    line (limit + 1) source =
      ⟨[], (next source).rest, (next source).ended, (next source).notices⟩ := by
  simp [line, uncoded]

/-- A line goes on behind a stroke with a code. -/
theorem line_of_code
    {source : List Keystroke}
    {code : Code}
    (limit : Nat)
    (coded : (next source).code? = some code) :
    line (limit + 1) source =
      { line limit (next source).rest with
        codes := code :: (line limit (next source).rest).codes } := by
  simp [line, coded]

/-- Only a stroke that does not end the source has a code. -/
theorem ended_of_code
    {source : List Keystroke}
    {code : Code}
    (coded : (next source).code? = some code) :
    (next source).ended = false := by
  fun_induction next source <;> simp_all

theorem length_rest_line_le
    (limit : Nat)
    (source : List Keystroke) :
    (line limit source).rest.length ≤ source.length := by
  induction limit generalizing source with
  | zero => exact Nat.le_refl _
  | succ limit shorter =>
    have stroke := length_rest_next_le source
    cases read : (next source).code? with
    | none => simpa [line_of_uncoded limit read] using stroke
    | some code => simpa [line_of_code limit read] using Nat.le_trans (shorter _) stroke

/-- Reading a line uses up the source unless the source ends there. -/
theorem length_rest_line_lt
    {limit : Nat}
    {source : List Keystroke}
    (room : 0 < limit)
    (ongoing : (line limit source).ended = false) :
    (line limit source).rest.length < source.length := by
  obtain ⟨limit, rfl⟩ := Nat.exists_eq_succ_of_ne_zero (Nat.ne_of_gt room)
  cases read : (next source).code? with
  | none =>
    simp only [Nat.succ_eq_add_one, line_of_uncoded limit read] at ongoing ⊢
    exact length_rest_next_lt ongoing
  | some code =>
    simp only [Nat.succ_eq_add_one, line_of_code limit read]
    exact Nat.lt_of_le_of_lt (length_rest_line_le _ _)
      (length_rest_next_lt (ended_of_code read))

end Keyboard

end MixUnits
