import MixUnits.Device.Answer
import MixUnits.Keyboard

/-!
# Typewriter

A typewriter reads lines of fourteen words from its source.  A line ends with the
first character that has no code, and the words behind it are zero.  Once the source
has ended or failed the typewriter remembers it.
-/

namespace MixUnits

/-- The words of a typed line. -/
def typewriterGeometry : Geometry :=
  ⟨14, 1⟩

/-- A typewriter with its source and whether the source was seen to end. -/
structure Typewriter where
  source : List Keystroke
  ended : Bool
  store : BlockStore typewriterGeometry

namespace Typewriter

/-- The cost of reading a word from the typewriter, in milliseconds. -/
def latency : UInt64 := 100

/-- A typewriter on a source. -/
def mount (source : List Keystroke) : Typewriter :=
  ⟨source, false, .blank typewriterGeometry⟩

/-- Reads a line into the words of a buffer, as many as a line has. -/
def input
    (typewriter : Typewriter)
    (now : UInt64)
    (buffer : Buffer) :
    Received Typewriter :=
  let count := min buffer.size typewriterGeometry.blockSize
  let line := Keyboard.line (5 * count) typewriter.source
  { accepted := true
    unit :=
      { source := line.rest
        ended := typewriter.ended || line.ended
        store := typewriter.store.markBusy now latency }
    buffer := buffer.overlay 0 (Keyboard.pack count line.codes)
    notices := line.notices }

/-- A buffer of fourteen words becomes the line at the beginning of the source. -/
theorem input_of_size
    (typewriter : Typewriter)
    {buffer : Buffer}
    (size : buffer.size = 14)
    (now : UInt64) :
    let typed := Keyboard.line 70 typewriter.source
    let received := typewriter.input now buffer
    received.unit.source = typed.rest ∧
      received.unit.ended = (typewriter.ended || typed.ended) ∧
        received.buffer = Keyboard.pack 14 typed.codes ∧ received.notices = typed.notices := by
  have laid (codes : List Code) :
      buffer.overlay 0 (Keyboard.pack 14 codes) = Keyboard.pack 14 codes :=
    Buffer.overlay_of_size (by rw [Keyboard.size_pack, size])
  simp only [input, typewriterGeometry, size, Nat.min_self, Nat.reduceMul, laid, and_self]

/-- Reading a line uses up the source unless the source was seen to end. -/
theorem length_source_input_lt
    {typewriter : Typewriter}
    {now : UInt64}
    {buffer : Buffer}
    (room : 0 < buffer.size)
    (ongoing : (typewriter.input now buffer).unit.ended = false) :
    (typewriter.input now buffer).unit.source.length < typewriter.source.length := by
  simp only [input, Bool.or_eq_false_iff] at ongoing
  refine Keyboard.length_rest_line_lt ?_ ongoing.2
  simp only [typewriterGeometry]
  omega

end Typewriter

end MixUnits
