import MixUnits.Program

/-!
# The outer layer

The files that a command needs are read into a file system, the program runs on it,
and the file that the command may have written goes back.  Everything is decided by
the program; this layer reads and writes.
-/

namespace MixUnits.Main

/-- The number of the error of reading a folder as a file. -/
def folderError : UInt32 := 21

/-- Whether there is a folder at a path. -/
def isFolder (path : String) : IO Bool := do
  try
    discard (IO.FS.readBinFile path)
    return false
  catch
    | .inappropriateType _ number _ => return number = folderError
    | _ => return false

/-- The beginnings of a path that must be folders. -/
def folderPaths (path : String) : List String :=
  let steps := path.splitOn "/"
  (List.range (steps.length - 1)).map fun count =>
    let folder := String.intercalate "/" (steps.take (count + 1))
    if folder = "" then "/" else folder

/-- A file system with one more folder, if it is there. -/
def fetchFolder
    (files : FileSystem)
    (path : String) :
    IO FileSystem := do
  if ← isFolder path then
    return files.makeFolders path
  else
    return files

/-- A file system with one more file and the folders on the way to it. -/
def fetch
    (files : FileSystem)
    (path : String) :
    IO FileSystem := do
  let files ← (folderPaths path).foldlM fetchFolder files
  try
    let contents ← IO.FS.readBinFile path
    match files.walk path with
    | .ok location =>
      return files.put location (.file (Thunk.pure contents.data))
    | .error _ => return files
  catch _ =>
    fetchFolder files path

/-- Reads a stream to its end. -/
partial def readAll
    (stream : IO.FS.Stream)
    (before : ByteArray) :
    IO ByteArray := do
  let chunk ← stream.read 65536
  if chunk.isEmpty then
    return before
  else
    readAll stream (before ++ chunk)

/-- The files that the command line asks for. -/
def fetchAll (arguments : List String) : IO FileSystem := do
  match CommandLine.read arguments with
  | .error _ => return .empty
  | .ok command => (Program.filesOf command).foldlM fetch .empty

/-- What is typed, if the command line asks for it. -/
def fetchInput (arguments : List String) : IO (List UInt8) := do
  match CommandLine.read arguments with
  | .ok .echo => return (← readAll (← IO.getStdin) .empty).data.toList
  | _ => return []

/-- Writes back the file that the command may have written. -/
def putBack
    (arguments : List String)
    (before after : FileSystem) :
    IO Unit := do
  if let .ok command := CommandLine.read arguments then
    if let some path := Program.written? command then
      let former := (before.read path).toOption
      if let some contents := (after.read path).toOption then
        unless former = some contents do
          IO.FS.writeBinFile path ⟨contents⟩

end MixUnits.Main

/-- Runs the program on the real files and streams. -/
def main (arguments : List String) : IO UInt32 := do
  let level ← IO.getEnv "RUST_LOG"
  let files ← MixUnits.Main.fetchAll arguments
  let input ← MixUnits.Main.fetchInput arguments
  let outcome :=
    MixUnits.Program.run arguments (MixUnits.Program.severityNamed? level) files input
  (← IO.getStdout).write ⟨outcome.printed.toArray⟩
  for notice in outcome.notices do
    IO.eprintln ("[" ++ notice.severity.text ++ "] " ++ notice.message)
  MixUnits.Main.putBack arguments files outcome.files
  return outcome.exitCode
