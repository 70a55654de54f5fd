import MixUnits.Proofs.Files

/-!
# What replacing a file leaves alone

A path leads to a place, and a file is put there where no folder stands.  Everything else
stays as it was: every other node, every way to a file, whether a file can be replaced,
and what is read through a path that leads to another place.  A file that is put twice is
put as if the first time had not been.
-/

namespace MixUnits.FileSystem

variable {files : FileSystem}

theorem walk_eq_ok_iff
    (path : String)
    (place : Location) :
    files.walk path = .ok place ↔
      ∃ folder last,
        files.approach path = .ok (folder, last) ∧ follow folder last = .ok place := by
  rw [walk, bind_eq_ok_iff]
  constructor
  · rintro ⟨⟨folder, last⟩, approached, followed⟩
    exact ⟨folder, last, approached, followed⟩
  · rintro ⟨folder, last, approached, followed⟩
    exact ⟨(folder, last), approached, followed⟩

/-- What is read through a path is the file at the place to which it leads. -/
theorem read_eq_ok_iff
    (path : String)
    (contents : Array UInt8) :
    files.read path = .ok contents ↔
      ∃ place stored,
        files.walk path = .ok place ∧
          files.node? place = some (.file stored) ∧
            endsInSlash path = false ∧ stored.get = contents := by
  rw [read, bind_eq_ok_iff]
  constructor
  · rintro ⟨place, walked, found⟩
    split at found
    · contradiction
    · contradiction
    · next stored here =>
      cases named : endsInSlash path with
      | true =>
          rw [named] at found
          contradiction
      | false =>
          rw [named] at found
          exact ⟨place, stored, walked, here, rfl, Except.ok.inj found⟩
  · rintro ⟨place, stored, walked, here, named, rfl⟩
    refine ⟨place, walked, ?_⟩
    rw [here, named]
    rfl

/-- The file at a path can be replaced if no folder stands where it leads. -/
theorem isWritable_iff_place (path : String) :
    files.isWritable path = true ↔
      ∃ place,
        files.walk path = .ok place ∧
          endsInSlash path = false ∧ files.isFolder place = false := by
  rw [isWritable_iff path (Thunk.mk fun _ => #[])]
  constructor
  · rintro ⟨written, wrote⟩
    rcases (write_eq_ok_iff _ _ _).1 wrote with
      ⟨folder, last, place, approached, named, followed, free, -⟩
    exact ⟨place, (walk_eq_ok_iff _ _).2 ⟨folder, last, approached, followed⟩, named, free⟩
  · rintro ⟨place, walked, named, free⟩
    rcases (walk_eq_ok_iff _ _).1 walked with ⟨folder, last, approached, followed⟩
    exact
      ⟨_, (write_eq_ok_iff _ _ _).2
        ⟨folder, last, place, approached, named, followed, free, rfl⟩⟩

theorem replace_of_place
    {path : String}
    {place : Location}
    (walked : files.walk path = .ok place)
    (named : endsInSlash path = false)
    (free : files.isFolder place = false)
    (contents : Thunk (Array UInt8))
    (report : FileError → Notice) :
    (files.replace path contents report).1 = files.put place (.file contents) := by
  rcases (walk_eq_ok_iff _ _).1 walked with ⟨folder, last, approached, followed⟩
  have wrote : files.write path contents = .ok (files.put place (.file contents)) :=
    (write_eq_ok_iff _ _ _).2
      ⟨folder, last, place, approached, named, followed, free, rfl⟩
  rw [replace, wrote]

@[simp]
theorem put_put
    (location : Location)
    (first second : Node) :
    (files.put location first).put location second = files.put location second := by
  simp [put, List.filter_filter]

section Placed

variable
  {place : Location}
  (free : files.isFolder place = false)
  (contents : Thunk (Array UInt8))

include free

theorem isFolder_put_file_eq (location : Location) :
    (files.put place (.file contents)).isFolder location = files.isFolder location := by
  by_cases here : location = place
  · subst here
    have below : location ≠ [] := by
      rintro rfl
      contradiction
    rw [free, isFolder, node?_put_self files _ below]
  · rw [isFolder, isFolder, node?_put_of_ne files _ here]

theorem approach_put_file_iff
    (path : String)
    (goal : Location × String) :
    (files.put place (.file contents)).approach path = .ok goal ↔
      files.approach path = .ok goal := by
  constructor
  · apply approach_of_folders
    intro location folder
    rwa [isFolder_put_file_eq free] at folder
  · exact approach_put_file free contents

theorem walk_put_file_iff
    (path : String)
    (goal : Location) :
    (files.put place (.file contents)).walk path = .ok goal ↔
      files.walk path = .ok goal := by
  simp only [walk_eq_ok_iff, approach_put_file_iff free contents]

theorem isWritable_put_file (path : String) :
    (files.put place (.file contents)).isWritable path = files.isWritable path := by
  rw [Bool.eq_iff_iff]
  simp only [isWritable_iff_place, walk_put_file_iff free contents,
    isFolder_put_file_eq free contents]

/-- A path that leads to another place reads what it read before. -/
theorem read_put_file_iff_of_apart
    {path : String}
    (apart : files.walk path ≠ .ok place)
    (held : Array UInt8) :
    (files.put place (.file contents)).read path = .ok held ↔
      files.read path = .ok held := by
  rw [read_eq_ok_iff, read_eq_ok_iff]
  simp only [walk_put_file_iff free contents]
  constructor
  · rintro ⟨goal, stored, walked, here, rest⟩
    have other : goal ≠ place := fun same => apart (same ▸ walked)
    exact ⟨goal, stored, walked, node?_put_of_ne files _ other ▸ here, rest⟩
  · rintro ⟨goal, stored, walked, here, rest⟩
    have other : goal ≠ place := fun same => apart (same ▸ walked)
    exact ⟨goal, stored, walked, (node?_put_of_ne files _ other).trans here, rest⟩

end Placed

/-- Replacing a file does not change which files can be replaced. -/
theorem isWritable_replace
    (path other : String)
    (contents : Thunk (Array UInt8))
    (report : FileError → Notice) :
    (files.replace path contents report).1.isWritable other = files.isWritable other := by
  cases writable : files.isWritable path with
  | false => rw [replace_of_not_writable writable]
  | true =>
      rcases (isWritable_iff_place path).1 writable with ⟨place, walked, named, free⟩
      rw [replace_of_place walked named free, isWritable_put_file free]

end MixUnits.FileSystem
