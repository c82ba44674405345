import Mathlib.Algebra.Order.Floor.Semiring
import Mathlib.Algebra.Order.Field.Basic

/-!
# How many rounds a deadline lasts

A loop that looks at a clock once a round, and whose rounds take at least `δ`, sees a deadline pass
after a number of rounds that only the time left and `δ` determine. A measure of a loop adds up
these numbers for the deadlines it can still wait for: each round that goes on lowers it by
`rounds_lt`.
-/

namespace Deadline

variable {K : Type*} [Field K] [LinearOrder K] [IsStrictOrderedRing K] [FloorSemiring K]

/-- The number of rounds of length `δ` that a deadline lasts. -/
def rounds (δ left : K) : ℕ := ⌈left / δ⌉₊

variable {δ left later : K}

theorem rounds_mono (hδ : 0 < δ) (h : later ≤ left) : rounds δ later ≤ rounds δ left :=
  Nat.ceil_mono (div_le_div_of_nonneg_right h hδ.le)

/-- A round takes one from a deadline that has not passed. -/
theorem rounds_lt (hδ : 0 < δ) (hleft : 0 < left) (h : later + δ ≤ left) :
    rounds δ later < rounds δ left := by
  rw [rounds, rounds, Nat.lt_ceil]
  have hquotient : later / δ + 1 ≤ left / δ := by
    rw [← div_self hδ.ne', ← add_div]
    exact div_le_div_of_nonneg_right h hδ.le
  rcases le_or_gt 0 (later / δ) with hlater | hlater
  · exact (Nat.ceil_lt_add_one hlater).trans_le hquotient
  · rw [Nat.ceil_eq_zero.mpr hlater.le, Nat.cast_zero]
    exact div_pos hleft hδ

end Deadline
