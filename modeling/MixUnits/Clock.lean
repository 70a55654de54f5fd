import MixUnits.Arithmetic

/-!
# The clock

Time is counted in milliseconds, in 64 bits.  It moves only when it is moved, to a given
moment, which may lie in the past, or on by a given duration.  Behind the last moment that
64 bits can show the count begins again.
-/

namespace MixUnits

namespace Moment

theorem toNat_max (one other : UInt64) : (max one other).toNat = max one.toNat other.toNat := by
  rw [show max one other = if one ≤ other then other else one from rfl]
  split <;> rename_i order <;> rw [UInt64.le_iff_toNat_le] at order
  · exact (Nat.max_eq_right order).symm
  · exact (Nat.max_eq_left (Nat.le_of_not_le order)).symm

theorem le_max_left (one other : UInt64) : one ≤ max one other := by
  rw [UInt64.le_iff_toNat_le, toNat_max]
  exact Nat.le_max_left _ _

theorem le_max_right (one other : UInt64) : other ≤ max one other := by
  rw [UInt64.le_iff_toNat_le, toNat_max]
  exact Nat.le_max_right _ _

theorem max_eq_left
    {one other : UInt64}
    (order : other ≤ one) :
    max one other = one := by
  rw [UInt64.le_iff_toNat_le] at order
  exact UInt64.toNat_inj.1 ((toNat_max one other).trans (Nat.max_eq_left order))

end Moment

/-- A move of the clock. -/
inductive ClockMove where
  | set (moment : UInt64)
  | advance (duration : UInt64)
  deriving DecidableEq, Repr

/-- The moment after a move. -/
def ClockMove.apply
    (now : UInt64) :
    ClockMove → UInt64
  | .set moment => moment
  | .advance duration => now + duration

/-- Whether a move leads to a moment that the clock cannot show. -/
def ClockMove.overflows
    (now : UInt64) :
    ClockMove → Bool
  | .set _ => false
  | .advance duration => UInt64.size ≤ now.toNat + duration.toNat

/-- What a clock shows at the beginning, at zero, and after each move. -/
def clockReadings (moves : List ClockMove) : List UInt64 :=
  (moves.foldl
    (fun readings move =>
      ClockMove.apply (readings.headD 0) move :: readings)
    [0]).reverse

end MixUnits
