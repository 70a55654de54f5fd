import MixUnits.FileSystem.Path
import MixUnits.Notice

/-!
# Replacing a file

A unit that cannot write its file goes on without it: the files stay as they were,
and the failure is reported.
-/

namespace MixUnits.FileSystem

/-- Replaces the file at a path, or reports why it could not. -/
def replace
    (files : FileSystem)
    (path : String)
    (contents : Thunk (Array UInt8))
    (report : FileError → Notice) :
    FileSystem × List Notice :=
  match files.write path contents with
  | .ok written => (written, [])
  | .error error => (files, [report error])

end MixUnits.FileSystem
