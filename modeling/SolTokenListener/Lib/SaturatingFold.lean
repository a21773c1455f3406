import Mathlib.Algebra.Order.BigOperators.Group.List
import Mathlib.Algebra.Order.Group.Defs

/-!
# Saturating addition and its folds

Addition that stops at a cap, as fixed-width accumulators written over unbounded
integers compute it: the overflow test is made on `cap - b`, before the sum.
Over nonnegative summands the fold saturates at most once, so it is one clamp of
the exact sum and does not depend on the order of the summands.
-/

namespace SolTokenListener.Lib.SaturatingFold

variable {α : Type*} [AddCommGroup α] [LinearOrder α] [IsOrderedAddMonoid α]

def satAdd (cap a b : α) : α := if a > cap - b then cap else a + b

theorem satAdd_eq_min (cap a b : α) : satAdd cap a b = min cap (a + b) := by
  unfold satAdd
  split
  · next above =>
      rw [min_eq_left]
      exact (sub_lt_iff_lt_add.mp above).le
  · next fits =>
      rw [min_eq_right]
      exact le_sub_iff_add_le.mp (not_lt.mp fits)

/-- Clamping the accumulator before a nonnegative summand is added does not change
the clamped result. -/
theorem min_add_of_nonneg {cap b : α} (a : α) (h : 0 ≤ b) :
    min cap (min cap a + b) = min cap (a + b) := by
  rcases le_total a cap with small | large
  · rw [min_eq_right small]
  · rw [min_eq_left large, min_eq_left (le_add_of_nonneg_right h)]
    exact (min_eq_left (large.trans (le_add_of_nonneg_right h))).symm

theorem foldl_satAdd (cap : α) (xs : List α) (nonneg : ∀ x ∈ xs, 0 ≤ x) (start : α) :
    xs.foldl (satAdd cap) (min cap start) = min cap (start + xs.sum) := by
  induction xs generalizing start with
  | nil => simp
  | cons x xs ih =>
    have head : 0 ≤ x := nonneg x (by simp)
    rw [List.foldl_cons, satAdd_eq_min, min_add_of_nonneg start head,
      ih (fun y hy => nonneg y (by simp [hy])), List.sum_cons, add_assoc]

/-- The fold from zero is the exact sum clamped once. -/
theorem foldl_satAdd_zero {cap : α} (capped : 0 ≤ cap) (xs : List α)
    (nonneg : ∀ x ∈ xs, 0 ≤ x) :
    xs.foldl (satAdd cap) 0 = min cap xs.sum := by
  have clamped := foldl_satAdd cap xs nonneg 0
  rwa [min_eq_right capped, zero_add] at clamped

end SolTokenListener.Lib.SaturatingFold
