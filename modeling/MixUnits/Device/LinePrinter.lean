import MixUnits.Device.Answer
import MixUnits.Sink

/-!
# Line printer

A line has twenty-four words of five characters and ends with a line feed.  A short
buffer makes a short line.  The printer hands each line to its sink and flushes it;
a line that the sink does not take is reported and counts as printed.
-/

namespace MixUnits

/-- The words of a printed line. -/
def printerGeometry : Geometry :=
  ⟨24, 1⟩

/-- A line printer with the sink that takes its lines. -/
structure LinePrinter where
  sink : Sink
  store : BlockStore printerGeometry

namespace LinePrinter

/-- The cost of printing a word, in milliseconds. -/
def latency : UInt64 := 100

/-- The end of a printed line. -/
def lineFeed : UInt8 := 10

/-- A line printer on a sink. -/
def mount (sink : Sink) : LinePrinter :=
  ⟨sink, .blank printerGeometry⟩

/-- The characters of a printed line. -/
def line (buffer : Buffer) : List UInt8 :=
  (buffer.toList.take printerGeometry.blockSize).flatMap Word.text ++ [lineFeed]

/-- Prints a buffer as a line. -/
def output
    (printer : LinePrinter)
    (now : UInt64)
    (buffer : Buffer) :
    Answer LinePrinter :=
  let (sink, failure?) := printer.sink.deliver (line buffer)
  { accepted := true
    unit := { sink := sink, store := printer.store.markBusy now latency }
    notices :=
      match failure? with
      | none => []
      | some cause => [.lineLost cause] }

end LinePrinter

end MixUnits
