import MixUnits.Machine

/-!
# Echo

What is typed on the typewriter is printed on the line printer, a line at a time.
Both units share one buffer of the size of a printed line, of which the typewriter
fills the leading words.  The echo ends with the input; the line on which the input
ends is printed only if it holds more than blanks.

An echo takes turns.  As long as one of the units is in the midst of a transfer a turn
is a wait for both of them; otherwise it reads a line and prints it.  The echo can be
interrupted at the beginning of a turn.
-/

namespace MixUnits

/-- A typewriter and a printer with the buffer between them. -/
structure Echo where
  typewriter : Typewriter
  printer : LinePrinter
  line : Buffer
  now : UInt64
  size_line : line.size = printerGeometry.blockSize

namespace Echo

/-- An echo of a source on a sink. -/
def start
    (source : List Keystroke)
    (sink : Sink) :
    Echo where
  typewriter := .mount source
  printer := .mount sink
  line := Buffer.blank printerGeometry.blockSize
  now := 0
  size_line := by simp

/-- Whether one of the units is in the midst of a transfer. -/
def isBusy (echo : Echo) : Bool :=
  echo.typewriter.store.busy echo.now || echo.printer.store.busy echo.now

/-- Moves time forward to the moment at which both units are ready. -/
def await (echo : Echo) : Echo :=
  { echo with
    now := max echo.now (max echo.typewriter.store.busyUntil echo.printer.store.busyUntil) }

/-- Reads a line into the leading words of the buffer. -/
def read (echo : Echo) : Answer Echo :=
  let typed :=
    echo.typewriter.input echo.now (echo.line.slice 0 typewriterGeometry.blockSize)
  typed.toAnswer.map fun typewriter =>
    { echo with
      typewriter := typewriter
      line := echo.line.overlay 0 typed.buffer
      size_line := by simp [echo.size_line] }

/-- Prints the buffer. -/
def print (echo : Echo) : Answer Echo :=
  (echo.printer.output echo.now echo.line).map fun printer =>
    { echo with printer := printer }

/-- Whether the buffer holds blanks only. -/
def isBlank (echo : Echo) : Bool :=
  echo.line.all fun word => word = .zero

/-- The end of a turn: whether the echo is over, and what was reported. -/
structure Turn where
  echo : Echo
  ended : Bool
  notices : List Notice

/-- A turn of an echo. -/
def turn (echo : Echo) : Turn :=
  if echo.isBusy then
    ⟨echo.await, false, []⟩
  else
    let read := echo.read
    if read.unit.typewriter.ended && read.unit.isBlank then
      ⟨read.unit, true, read.notices⟩
    else
      let printed := read.unit.print
      ⟨printed.unit, printed.unit.typewriter.ended, read.notices ++ printed.notices⟩

theorem isBusy_await (echo : Echo) : echo.await.isBusy = false := by
  simp only [isBusy, await, BlockStore.busy, Bool.or_eq_false_iff]
  constructor
  · apply decide_eq_false
    exact
      UInt64.not_lt.2 (UInt64.le_trans (Moment.le_max_left _ _) (Moment.le_max_right _ _))
  · apply decide_eq_false
    exact
      UInt64.not_lt.2 (UInt64.le_trans (Moment.le_max_right _ _) (Moment.le_max_right _ _))

theorem turn_of_busy
    {echo : Echo}
    (busy : echo.isBusy = true) :
    echo.turn = ⟨echo.await, false, []⟩ :=
  if_pos busy

/-- The turn that meets the end of the source on a blank line prints nothing. -/
theorem turn_of_blank
    {echo : Echo}
    (ready : echo.isBusy = false)
    (ended : echo.read.unit.typewriter.ended = true)
    (blank : echo.read.unit.isBlank = true) :
    echo.turn = ⟨echo.read.unit, true, echo.read.notices⟩ := by
  simp only [turn, ready, ended, blank, Bool.false_eq_true, if_false, Bool.and_self, if_true]

/-- Every other turn with ready units prints what it reads. -/
theorem turn_of_printed
    {echo : Echo}
    (ready : echo.isBusy = false)
    (printed : (echo.read.unit.typewriter.ended && echo.read.unit.isBlank) = false) :
    echo.turn =
      ⟨echo.read.unit.print.unit, echo.read.unit.typewriter.ended,
        echo.read.notices ++ echo.read.unit.print.notices⟩ := by
  simp only [turn, ready, printed, Bool.false_eq_true, if_false]
  rfl

/-- Reading a line uses up the source unless the source was seen to end. -/
theorem length_source_read_lt
    {echo : Echo}
    (ongoing : echo.read.unit.typewriter.ended = false) :
    echo.read.unit.typewriter.source.length < echo.typewriter.source.length := by
  refine Typewriter.length_source_input_lt ?_ ongoing
  simp [echo.size_line, typewriterGeometry, printerGeometry]

/-- What an echo has still to do: two turns for a keystroke, and one more for a wait. -/
def toil (echo : Echo) : Nat :=
  2 * echo.typewriter.source.length + echo.isBusy.toNat

/-- Every turn but the last one brings the echo nearer to its end. -/
theorem toil_turn_lt
    {echo : Echo}
    (ongoing : echo.turn.ended = false) :
    echo.turn.echo.toil < echo.toil := by
  cases busy : echo.isBusy with
  | true =>
      rw [turn_of_busy busy, toil, toil, isBusy_await, busy]
      exact Nat.lt_succ_self _
  | false =>
      have wait := echo.turn.echo.isBusy.toNat_le
      cases met : echo.read.unit.typewriter.ended && echo.read.unit.isBlank with
      | true =>
          rw [Bool.and_eq_true] at met
          simp [turn_of_blank busy met.1 met.2] at ongoing
      | false =>
          rw [turn_of_printed busy met] at ongoing wait ⊢
          have shorter := length_source_read_lt ongoing
          have kept :
              echo.read.unit.print.unit.typewriter.source =
                echo.read.unit.typewriter.source :=
            rfl
          rw [toil, toil, kept]
          omega

/-- Takes turns, the next one with number `number`, until the echo is over or interrupted. -/
def proceed
    (interrupted : Nat → Bool)
    (number : Nat)
    (echo : Echo)
    (notices : Array Notice) :
    Echo × Array Notice :=
  if interrupted number then
    (echo, notices)
  else
    let turned := echo.turn
    if _ongoing : turned.ended = false then
      turned.echo.proceed interrupted (number + 1) (notices ++ turned.notices)
    else
      (turned.echo, notices ++ turned.notices)
  termination_by echo.toil
  decreasing_by exact toil_turn_lt _ongoing

/-- Echoes lines until the input ends. -/
def finish (echo : Echo) : Echo × Array Notice :=
  echo.proceed (fun _ => false) 0 #[]

end Echo

end MixUnits
