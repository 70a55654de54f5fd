import MixUnits.FileSystem.Replace

/-!
# Files that are written and read back

A file is put where no folder stands, so every folder that was on the way to it is still
on the way to it, and the path leads back to what was written.  Whether a file can be
replaced depends on the files and the path only; a file that cannot be replaced leaves
all files as they were.
-/

namespace MixUnits.FileSystem

variable {files : FileSystem}

theorem isFolder_iff (location : Location) :
    files.isFolder location = true ↔ files.node? location = some .folder := by
  rw [isFolder]
  split
  · next found => exact ⟨fun _ => found, fun _ => rfl⟩
  · next other => exact ⟨nofun, fun found => absurd found other⟩

theorem bind_eq_ok_iff
    {ε α β : Type}
    (first : Except ε α)
    (rest : α → Except ε β)
    (result : β) :
    (first >>= rest) = .ok result ↔
      ∃ value, first = .ok value ∧ rest value = .ok result := by
  cases first with
  | error cause => exact ⟨nofun, fun ⟨_, failed, _⟩ => nomatch failed⟩
  | ok value => exact ⟨fun reached => ⟨value, rfl, reached⟩, fun ⟨_, rfl, reached⟩ => reached⟩

theorem enter_eq_ok_iff
    (location next : Location)
    (step : String) :
    files.enter location step = .ok next ↔
      follow location step = .ok next ∧ files.isFolder next = true := by
  rw [enter, bind_eq_ok_iff]
  constructor
  · rintro ⟨reached, followed, entered⟩
    split at entered
    · contradiction
    · contradiction
    · next folder =>
      obtain rfl : reached = next := Except.ok.inj entered
      exact ⟨followed, (isFolder_iff reached).2 folder⟩
  · rintro ⟨followed, folder⟩
    refine ⟨next, followed, ?_⟩
    rw [(isFolder_iff next).1 folder]
    rfl

theorem isFolder_put_file
    {place location : Location}
    (free : files.isFolder place = false)
    (contents : Thunk (Array UInt8))
    (folder : files.isFolder location = true) :
    (files.put place (.file contents)).isFolder location = true := by
  have apart : location ≠ place := by
    rintro rfl
    rw [folder] at free
    contradiction
  rw [isFolder_iff] at folder ⊢
  rw [node?_put_of_ne files _ apart, folder]

theorem foldlM_enter_of_folders
    {others : FileSystem}
    (kept : ∀ location, files.isFolder location = true → others.isFolder location = true)
    (steps : List String)
    {start stop : Location}
    (walked : steps.foldlM files.enter start = .ok stop) :
    steps.foldlM others.enter start = .ok stop := by
  induction steps generalizing start with
  | nil => exact walked
  | cons step rest ih =>
      rw [List.foldlM_cons, bind_eq_ok_iff] at walked ⊢
      rcases walked with ⟨next, entered, onward⟩
      rcases (enter_eq_ok_iff start next step).1 entered with ⟨followed, folder⟩
      have still := kept next folder
      exact ⟨next, (enter_eq_ok_iff start next step).2 ⟨followed, still⟩, ih onward⟩

/-- Only folders matter to the way to a file. -/
theorem approach_of_folders
    {others : FileSystem}
    (kept : ∀ location, files.isFolder location = true → others.isFolder location = true)
    {path : String}
    {goal : Location × String}
    (approached : files.approach path = .ok goal) :
    others.approach path = .ok goal := by
  rw [approach] at approached ⊢
  split at approached
  · contradiction
  · next plain =>
    split at approached
    · contradiction
    · next named =>
      split at approached
      · contradiction
      · next short =>
        rw [bind_eq_ok_iff] at approached
        rcases approached with ⟨folder, walked, reached⟩
        rw [if_neg plain, if_neg named, if_neg short, bind_eq_ok_iff]
        exact ⟨folder, foldlM_enter_of_folders kept _ walked, reached⟩

/-- A file that is put where no folder stands is not in the way of any path. -/
theorem approach_put_file
    {place : Location}
    (free : files.isFolder place = false)
    (contents : Thunk (Array UInt8))
    {path : String}
    {goal : Location × String}
    (approached : files.approach path = .ok goal) :
    (files.put place (.file contents)).approach path = .ok goal :=
  approach_of_folders (fun _ => isFolder_put_file free contents) approached

/-- A file can be replaced if the path leads to a place where no folder stands. -/
theorem write_eq_ok_iff
    (path : String)
    (contents : Thunk (Array UInt8))
    (written : FileSystem) :
    files.write path contents = .ok written ↔
      ∃ folder last place,
        files.approach path = .ok (folder, last) ∧
          endsInSlash path = false ∧
            follow folder last = .ok place ∧
              files.isFolder place = false ∧
                written = files.put place (.file contents) := by
  rw [write, bind_eq_ok_iff]
  constructor
  · rintro ⟨⟨folder, last⟩, approached, put⟩
    cases named : endsInSlash path with
    | true =>
        rw [named] at put
        contradiction
    | false =>
        simp only [named, Bool.false_eq_true, if_false, bind_eq_ok_iff] at put
        rcases put with ⟨place, followed, put⟩
        cases free : files.isFolder place with
        | true =>
            rw [free] at put
            contradiction
        | false =>
            rw [free] at put
            have same : files.put place (.file contents) = written := Except.ok.inj put
            exact ⟨folder, last, place, approached, rfl, followed, free, same.symm⟩
  · rintro ⟨folder, last, place, approached, named, followed, free, rfl⟩
    refine ⟨(folder, last), approached, ?_⟩
    simp [named, followed, free, bind, Except.bind, pure, Except.pure]

/-- What was written to a path is read from it. -/
theorem read_of_write
    {path : String}
    {contents : Thunk (Array UInt8)}
    {written : FileSystem}
    (wrote : files.write path contents = .ok written) :
    written.read path = .ok contents.get := by
  rcases (write_eq_ok_iff path contents written).1 wrote with
    ⟨folder, last, place, approached, named, followed, free, rfl⟩
  have below : place ≠ [] := by
    rintro rfl
    contradiction
  have walked : (files.put place (.file contents)).walk path = .ok place := by
    rw [walk, approach_put_file free contents approached]
    exact followed
  rw [read, walked]
  simp only [bind, Except.bind, node?_put_self files _ below, named]
  rfl

/-- Whether the file at a path can be replaced. -/
def isWritable
    (files : FileSystem)
    (path : String) :
    Bool :=
  (files.write path (Thunk.mk fun _ => #[])).isOk

/-- The contents do not matter to whether a file can be replaced. -/
theorem isWritable_iff
    (path : String)
    (contents : Thunk (Array UInt8)) :
    files.isWritable path = true ↔ ∃ written, files.write path contents = .ok written := by
  constructor
  · intro writable
    rw [isWritable] at writable
    cases wrote : files.write path (Thunk.mk fun _ => #[]) with
    | error cause =>
        rw [wrote] at writable
        contradiction
    | ok written =>
        rcases (write_eq_ok_iff _ _ _).1 wrote with
          ⟨folder, last, place, approached, named, followed, free, -⟩
        exact ⟨_, (write_eq_ok_iff _ _ _).2
          ⟨folder, last, place, approached, named, followed, free, rfl⟩⟩
  · rintro ⟨written, wrote⟩
    rcases (write_eq_ok_iff _ _ _).1 wrote with
      ⟨folder, last, place, approached, named, followed, free, -⟩
    have blank :
        files.write path (Thunk.mk fun _ => #[]) =
          .ok (files.put place (.file (Thunk.mk fun _ => #[]))) :=
      (write_eq_ok_iff _ _ _).2
        ⟨folder, last, place, approached, named, followed, free, rfl⟩
    rw [isWritable, blank]
    rfl

example : empty.isWritable "d" = true := by decide

example : empty.isWritable "m/d" = false := by decide

theorem read_replace
    {path : String}
    (writable : files.isWritable path = true)
    (contents : Thunk (Array UInt8))
    (report : FileError → Notice) :
    (files.replace path contents report).1.read path = .ok contents.get := by
  rcases (isWritable_iff path contents).1 writable with ⟨written, wrote⟩
  rw [replace, wrote]
  exact read_of_write wrote

theorem replace_of_not_writable
    {path : String}
    (unwritable : files.isWritable path = false)
    (contents : Thunk (Array UInt8))
    (report : FileError → Notice) :
    (files.replace path contents report).1 = files := by
  rw [replace]
  cases wrote : files.write path contents with
  | error cause => rfl
  | ok written =>
      have writable := (isWritable_iff path contents).2 ⟨written, wrote⟩
      rw [unwritable] at writable
      contradiction

end MixUnits.FileSystem
