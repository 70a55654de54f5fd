import MixUnits.FileSystem.Basic

/-!
# Paths

A path is walked step by step from the working folder.  Empty steps and single dots
stay where they are, two dots go back, and every other step must name a folder until
the last one, which names the file.  A path that ends in a slash can name a folder
only.

Nothing is created on the way to a file: the folder that holds it must exist.  A path
that is wrong in two ways has the fault that comes first on the way; its characters
and the length of the whole path are looked at before the first step.
-/

namespace MixUnits.FileSystem

/-- The longest name of a file or folder, in bytes. -/
def nameLimit : Nat := 255

/-- The longest path, in bytes. -/
def pathLimit : Nat := 4095

/-- The steps of a path that are not empty. -/
def steps (path : String) : List String :=
  ((path.toList.splitOn '/').filter (· ≠ [])).map String.ofList

/-- Whether a path ends in a slash. -/
def endsInSlash (path : String) : Bool :=
  path.toList.getLast? = some '/'

/-- The location to which a step leads, whether or not something stands there. -/
def follow
    (location : Location)
    (step : String) :
    Except FileError Location :=
  if step = "." then
    .ok location
  else if step = ".." then
    .ok location.dropLast
  else if nameLimit < step.utf8ByteSize then
    .error .nameTooLong
  else
    .ok (location ++ [step])

/-- Goes one step into a folder. -/
def enter
    (files : FileSystem)
    (location : Location)
    (step : String) :
    Except FileError Location := do
  let next ← follow location step
  match files.node? next with
  | none => throw .notFound
  | some (.file _) => throw .notAFolder
  | some .folder => return next

/-- Goes to the folder from which the last step of a path is taken, and tells the step. -/
def approach
    (files : FileSystem)
    (path : String) :
    Except FileError (Location × String) :=
  if path.toList.any (·.toNat = 0) then
    .error .nulInPath
  else if path = "" then
    .error .notFound
  else if pathLimit < path.utf8ByteSize then
    .error .nameTooLong
  else do
    let folder ← (steps path).dropLast.foldlM files.enter []
    return (folder, (steps path).getLast?.getD ".")

/-- The location at the end of a path, whether or not something stands there. -/
def walk
    (files : FileSystem)
    (path : String) :
    Except FileError Location := do
  let (folder, last) ← files.approach path
  follow folder last

/-- The bytes of the file at a path. -/
def read
    (files : FileSystem)
    (path : String) :
    Except FileError (Array UInt8) := do
  match files.node? (← files.walk path) with
  | none => throw .notFound
  | some .folder => throw .isAFolder
  | some (.file contents) =>
    if endsInSlash path then throw .notAFolder else return contents.get

/--
Replaces the file at a path.  A path that ends in a slash is refused as soon as the
folder is reached from which its last step is taken.
-/
def write
    (files : FileSystem)
    (path : String)
    (contents : Thunk (Array UInt8)) :
    Except FileError FileSystem := do
  let (folder, last) ← files.approach path
  if endsInSlash path then
    throw .isAFolder
  let location ← follow folder last
  if files.isFolder location then
    throw .isAFolder
  return files.put location (.file contents)

/-- Walks along steps and makes the folders that are missing, until a file is in the way. -/
def makeWay
    (files : FileSystem)
    (location : Location) :
    List String → FileSystem
  | [] => files
  | step :: rest =>
    match follow location step with
    | .error _ => files
    | .ok next =>
      let prepared := files.makeFolder next
      if prepared.isFolder next then prepared.makeWay next rest else files

/-- Makes the folder at a path, and every folder on the way to it. -/
def makeFolders
    (files : FileSystem)
    (path : String) :
    FileSystem :=
  files.makeWay [] (steps path)

/-- Writes a file after making the folders on the way to it. -/
def install
    (files : FileSystem)
    (path : String)
    (contents : Thunk (Array UInt8)) :
    FileSystem :=
  let prepared := files.makeWay [] (steps path).dropLast
  match prepared.write path contents with
  | .ok written => written
  | .error _ => prepared

/-- Whether what stands at a location can be meant by a path. -/
def isMeant
    (path : String) :
    Node → Bool
  | .folder => true
  | .file _ => !endsInSlash path

/-- Takes away a file, or a folder with its contents, and tells whether there was one. -/
def remove
    (files : FileSystem)
    (path : String) :
    Bool × FileSystem :=
  match files.walk path with
  | .error _ | .ok [] => (false, files)
  | .ok location =>
    if (files.node? location).any (isMeant path) then
      (true, files.erase location)
    else
      (false, files)

end MixUnits.FileSystem
