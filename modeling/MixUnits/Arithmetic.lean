/-!
# Arithmetic in 64 bits

Moments, the numbers of blocks and the sizes of arrays are numbers of 64 bits.  A sum or a
product that does not fit is a matter of how the program was built.  Wrapping arithmetic
leaves out the bits in excess, so that the count begins again at zero; this is the arithmetic
of all that is computed here.  With checked arithmetic the program stops, and there is no
outcome.
-/

namespace MixUnits

/-- What becomes of sums and products that do not fit into 64 bits. -/
inductive Arithmetic where
  | wrapping
  | checked
  deriving DecidableEq, Repr

namespace Arithmetic

variable
  {State Move : Type}
  {arithmetic : Arithmetic}
  {overflows : Bool}
  {outcome result : State}

/-- An outcome, unless the arithmetic is checked and something did not fit. -/
def outcome?
    (overflows : Bool)
    (outcome : State) :
    Arithmetic → Option State
  | .wrapping => some outcome
  | .checked => if overflows then none else some outcome

theorem outcome?_eq_ite :
    arithmetic.outcome? overflows outcome =
      if arithmetic = .checked ∧ overflows = true then none else some outcome := by
  cases arithmetic with
  | wrapping => rfl
  | checked =>
      rw [outcome?]
      simp only [true_and]

theorem outcome?_eq_none_iff :
    arithmetic.outcome? overflows outcome = none ↔
      arithmetic = .checked ∧ overflows = true := by
  simp only [outcome?_eq_ite, ite_eq_left_iff, reduceCtorEq, imp_false, Decidable.not_not]

/-- If there is an outcome, it is the same by either arithmetic. -/
theorem eq_of_outcome? (given : arithmetic.outcome? overflows outcome = some result) :
    result = outcome := by
  cases arithmetic <;> cases overflows <;> simp_all [outcome?]

theorem eq_false_of_outcome?_checked
    (given : checked.outcome? overflows outcome = some result) :
    overflows = false := by
  cases overflows with
  | false => rfl
  | true => cases given

/-- What becomes of a state when some moves are made, of which each may overflow. -/
def replay?
    (arithmetic : Arithmetic)
    (overflows : State → Move → Bool)
    (act : State → Move → State)
    (state : State) :
    List Move → Option State
  | [] => some state
  | move :: rest =>
    (arithmetic.outcome? (overflows state move) (act state move)).bind fun next =>
      arithmetic.replay? overflows act next rest

section Replay

variable
  {overflows : State → Move → Bool}
  {act : State → Move → State}
  {state after : State}
  {moves : List Move}

theorem eq_foldl_of_replay?
    (given : arithmetic.replay? overflows act state moves = some after) :
    after = moves.foldl act state := by
  induction moves generalizing state with
  | nil => exact (Option.some.inj given).symm
  | cons move rest ih =>
      obtain ⟨next, taken, following⟩ := Option.bind_eq_some_iff.1 given
      obtain rfl := eq_of_outcome? taken
      exact ih following

/-- Only checked arithmetic stops, and it does at the first move that overflows. -/
theorem replay?_eq_none_iff :
    arithmetic.replay? overflows act state moves = none ↔
      arithmetic = .checked ∧
        ∃ earlier move later,
          moves = earlier ++ move :: later ∧
            overflows (earlier.foldl act state) move = true := by
  induction moves generalizing state with
  | nil => simp [replay?]
  | cons move rest ih =>
      cases taken : arithmetic.outcome? (overflows state move) (act state move) with
      | none =>
          rw [replay?, taken]
          rcases outcome?_eq_none_iff.1 taken with ⟨checked, first⟩
          exact iff_of_true rfl ⟨checked, [], move, rest, rfl, first⟩
      | some next =>
          obtain rfl := eq_of_outcome? taken
          rw [replay?, taken, Option.bind_some, ih]
          refine and_congr_right fun checked => ?_
          subst checked
          constructor
          · rintro ⟨earlier, last, later, rfl, stops⟩
            exact ⟨move :: earlier, last, later, rfl, stops⟩
          · rintro ⟨earlier, last, later, same, stops⟩
            cases earlier with
            | nil =>
                cases same
                rw [List.foldl_nil, eq_false_of_outcome?_checked taken] at stops
                contradiction
            | cons first earlier =>
                cases same
                exact ⟨earlier, last, later, rfl, stops⟩

end Replay

end Arithmetic

end MixUnits
