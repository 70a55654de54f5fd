/-!
# Files below a working folder

A file system is a table of folders and files, each at a location: the names on the
way from the working folder.  A location that is not in the table does not exist.  A
file is replaced whole when it is written, and its contents are worked out when they
are first read.

There are no permissions, no failing or full media and no other programs at work.  What
can go wrong is in the names and in what stands on the way, so a file that can be written
can also be read or is missing, and a write that is begun is made in full.
-/

namespace MixUnits

/-- Why a file could not be read or written. -/
inductive FileError where
  | notFound
  | notAFolder
  | isAFolder
  | nameTooLong
  | nulInPath
  deriving DecidableEq, Repr

/-- The text of a file error, with its number if it has one. -/
def FileError.message : FileError → String
  | .notFound => "No such file or directory (os error 2)"
  | .notAFolder => "Not a directory (os error 20)"
  | .isAFolder => "Is a directory (os error 21)"
  | .nameTooLong => "File name too long (os error 36)"
  | .nulInPath => "file name contained an unexpected NUL byte"

/-- The names on the way from the working folder, the last one the name itself. -/
abbrev Location := List String

/-- What stands at a location: a folder, or a file with its bytes. -/
inductive Node where
  | folder
  | file (contents : Thunk (Array UInt8))

/-- A table of folders and files by location. -/
structure FileSystem where
  entries : List (Location × Node) := []

namespace FileSystem

/-- The file system that holds only the working folder. -/
def empty : FileSystem :=
  {}

/-- What stands at a location; the working folder itself is the empty list. -/
def node? (files : FileSystem) : Location → Option Node
  | [] => some .folder
  | location => (files.entries.find? fun entry => entry.1 == location).map (·.2)

/-- Whether a folder stands at a location. -/
def isFolder
    (files : FileSystem)
    (location : Location) :
    Bool :=
  match files.node? location with
  | some .folder => true
  | _ => false

/-- Puts a node at a location, in the stead of what stood there. -/
def put
    (files : FileSystem)
    (location : Location)
    (node : Node) :
    FileSystem :=
  ⟨(location, node) :: files.entries.filter fun entry => entry.1 != location⟩

/-- Takes away a location and everything below it. -/
def erase
    (files : FileSystem)
    (location : Location) :
    FileSystem :=
  ⟨files.entries.filter fun entry => !location.isPrefixOf entry.1⟩

/-- Makes a folder if nothing stands there and the folder around it is there. -/
def makeFolder
    (files : FileSystem)
    (location : Location) :
    FileSystem :=
  if files.isFolder location.dropLast ∧ (files.node? location).isNone then
    files.put location .folder
  else
    files

/-- The numbers of the characters of every name of a location. -/
def spelling (location : Location) : List (List Nat) :=
  location.map fun name => name.toList.map Char.toNat

/-- Whether a location comes before another one, name by name and letter by letter. -/
def comesBefore (location other : Location) : Bool :=
  (spelling location).lex (spelling other) fun name next => name.lex next Nat.blt

/--
Everything below the working folder, a folder before its contents and the names of
one folder in order.
-/
def listing (files : FileSystem) : List (Location × Node) :=
  files.entries.mergeSort fun left right => !comesBefore right.1 left.1

@[simp]
theorem node?_nil (files : FileSystem) : files.node? [] = some .folder :=
  rfl

/-- What is put at a location stands there. -/
theorem node?_put_self
    (files : FileSystem)
    {location : Location}
    (node : Node)
    (below : location ≠ []) :
    (files.put location node).node? location = some node := by
  cases location with
  | nil => exact absurd rfl below
  | cons name rest => simp [node?, put]

/-- What is put at a location leaves every other one as it was. -/
theorem node?_put_of_ne
    (files : FileSystem)
    {location other : Location}
    (node : Node)
    (apart : other ≠ location) :
    (files.put location node).node? other = files.node? other := by
  cases other with
  | nil => rfl
  | cons name rest =>
    have skipped : (location == name :: rest) = false := by
      simpa using apart.symm
    simp only [node?, put, List.find?_cons, skipped, List.find?_filter]
    congr 2
    funext entry
    by_cases same : entry.1 = name :: rest
    · simp [same, apart]
    · simp [same]

end FileSystem

end MixUnits
