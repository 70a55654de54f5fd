import MixUnits.Device.Answer
import MixUnits.FileSystem.Replace

/-!
# Paper tape

One output punches the whole tape of fourteen thousand words, and the file is made
anew each time.  Words that the buffer does not have are punched as zeros.  The
fields of a word are punched from the least significant on.
-/

namespace MixUnits

/-- The words of a paper tape. -/
def paperGeometry : Geometry :=
  ⟨14, 1000⟩

/-- A paper tape punch with its file. -/
@[ext]
structure PaperTape where
  path : String
  store : BlockStore paperGeometry

namespace PaperTape

/-- The cost of punching a word, in milliseconds. -/
def latency : UInt64 := 200

/-- A paper tape punch on a file. -/
def mount (path : String) : PaperTape :=
  ⟨path, .blank paperGeometry⟩

/-- The characters of a whole tape. -/
def encode (buffer : Buffer) : List UInt8 :=
  (List.range paperGeometry.size).flatMap fun index =>
    (buffer[index]?.getD .zero).text.reverse

/-- Punches a buffer, followed by zeros, as a whole tape. -/
def output
    (punch : PaperTape)
    (now : UInt64)
    (files : FileSystem)
    (buffer : Buffer) :
    Sent PaperTape :=
  let padding :=
    if buffer.size < paperGeometry.size then
      [Notice.tapePadded buffer.size paperGeometry.size]
    else
      []
  let (written, punching) :=
    files.replace punch.path (Thunk.mk fun _ => (encode buffer).toArray)
      (.tapeUnwritable punch.path)
  { accepted := true
    unit := { punch with store := punch.store.markBusy now latency }
    files := written
    notices := padding ++ punching }

end PaperTape

end MixUnits
