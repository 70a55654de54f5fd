import MixUnits.Proofs.Deed
import MixUnits.Proofs.Transfer

/-!
# Machines that are alike

The table of files remembers in which order files were put, and nobody can tell.  Files are
alike if the same stands at every location: the same paths lead to the same places then, the
same is read and the same can be replaced.  Machines are alike if they have the same units,
the same memory and files that are alike.  Requests do the same to them and leave them alike.
-/

namespace MixUnits

namespace FileSystem

/-- The same stands at every location. -/
def Alike (files others : FileSystem) : Prop :=
  ∀ location, files.node? location = others.node? location

namespace Alike

variable
  {files others : FileSystem}
  (alike : files.Alike others)

include alike

theorem isFolder_eq (location : Location) :
    files.isFolder location = others.isFolder location := by
  rw [isFolder, isFolder, alike location]

theorem enter_eq : files.enter = others.enter := by
  funext location step
  rw [enter, enter]
  simp only [alike _]

theorem walk_eq (path : String) : files.walk path = others.walk path := by
  rw [walk, walk, approach, approach, enter_eq alike]

theorem read_eq (path : String) : files.read path = others.read path := by
  rw [read, read, walk_eq alike]
  simp only [alike _]

theorem target?_eq (path : String) : files.target? path = others.target? path := by
  rw [target?, target?, walk_eq alike]
  simp only [isFolder_eq alike]

theorem saving?_eq (document : String × Thunk (Array UInt8)) :
    files.saving? document = others.saving? document := by
  rw [saving?, saving?, target?_eq alike]

theorem put
    (location : Location)
    (node : Node) :
    (files.put location node).Alike (others.put location node) := by
  intro other
  by_cases same : other = location
  · subst same
    cases other with
    | nil => rfl
    | cons name rest =>
        rw [node?_put_self files node (List.cons_ne_nil name rest),
          node?_put_self others node (List.cons_ne_nil name rest)]
  · rw [node?_put_of_ne files node same, node?_put_of_ne others node same]
    exact alike other

theorem keep (saved? : Option (Location × Thunk (Array UInt8))) :
    (files.keep saved?).Alike (others.keep saved?) := by
  cases saved? with
  | none => exact alike
  | some saved => exact alike.put saved.1 (.file saved.2)

end Alike

/-- Nobody can tell in which order files were put at different locations. -/
theorem alike_put_put
    {files : FileSystem}
    {place goal : Location}
    (apart : place ≠ goal)
    (one other : Node) :
    ((files.put place one).put goal other).Alike ((files.put goal other).put place one) := by
  intro location
  cases location with
  | nil => rfl
  | cons name rest =>
      have below := List.cons_ne_nil name rest
      by_cases first : name :: rest = place
      · subst first
        rw [node?_put_of_ne _ _ apart, node?_put_self _ _ below, node?_put_self _ _ below]
      · rw [node?_put_of_ne _ one first]
        by_cases second : name :: rest = goal
        · subst second
          rw [node?_put_self _ _ below, node?_put_self _ _ below]
        · rw [node?_put_of_ne _ _ second, node?_put_of_ne _ _ second,
            node?_put_of_ne _ _ first]

end FileSystem

namespace Machine

/-- Machines with the same units and the same memory, and files that are alike. -/
structure Alike (one other : Machine) : Prop where
  units : one.units = other.units
  memory : one.memory = other.memory
  files : one.files.Alike other.files

namespace Alike

variable
  {one other : Machine}
  (alike : one.Alike other)

include alike

theorem view?_eq (request : Request) : one.view? request = other.view? request := by
  simp only [view?, device?, windowEnd?, alike.units, alike.memory]

theorem deed_eq
    (now : UInt64)
    (request : Request) :
    one.deed now request = other.deed now request := by
  have same := alike.view?_eq request
  cases seen : other.view? request with
  | none => rw [deed_of_no_view? (same.trans seen), deed_of_no_view? seen]
  | some view =>
      rw [deed_of_view? (same.trans seen), deed_of_view? seen]
      apply Device.deed_of_other_files
      · intro _ path _ contents
        rw [alike.files.read_eq]
      · exact funext alike.files.saving?_eq

theorem applyTo
    (deed : Deed)
    (request : Request) :
    (deed.applyTo one request).Alike (deed.applyTo other request) where
  units := by
    simp only [Deed.applyTo, alike.units]
  memory := by
    simp only [Deed.applyTo, alike.memory]
  files := alike.files.keep deed.saved?

/-- A request does the same to machines that are alike. -/
theorem perform
    (now : UInt64)
    (request : Request) :
    (one.perform now request).accepted = (other.perform now request).accepted ∧
      (one.perform now request).unit.Alike (other.perform now request).unit := by
  rcases one.perform_eq_deed now request with ⟨acceptedOne, unitOne⟩
  rcases other.perform_eq_deed now request with ⟨acceptedOther, unitOther⟩
  rw [acceptedOne, acceptedOther, unitOne, unitOther, alike.deed_eq]
  exact ⟨rfl, alike.applyTo _ request⟩

end Alike

theorem alike_performAll
    {one other : Machine}
    (alike : one.Alike other)
    (moment : UInt64)
    (requests : List Request) :
    (one.performAll moment requests).accepted =
        (other.performAll moment requests).accepted ∧
      (one.performAll moment requests).machine.Alike
        (other.performAll moment requests).machine := by
  induction requests generalizing one other with
  | nil => exact ⟨rfl, alike⟩
  | cons request rest ih =>
      rcases alike.perform moment request with ⟨accepted, next⟩
      rcases ih next with ⟨following, last⟩
      rw [performAll, performAll, accepted, following]
      exact ⟨rfl, last⟩

end Machine

end MixUnits
