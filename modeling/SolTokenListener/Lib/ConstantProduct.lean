import Mathlib.Tactic.Linarith
import Mathlib.Tactic.Ring

/-!
# Constant product swaps

What a pool of two reserves gives for an amount put in, rounded down. The product of the reserves
never falls, however much of the amount is kept beyond what was priced and however little is paid.
A swap back never returns what a swap forth cost: against the pool of before it returns at most the
priced amount, and against the pool after it less than what entered it. The cost of a wanted output is
rounded up past the exact price, and covers what the output is worth against the pool after it.
-/

namespace SolTokenListener.Lib.ConstantProduct

/-- The output for an amount of the first asset. -/
def swapOut (reserveIn reserveOut amount : Int) : Int := reserveOut * amount / (reserveIn + amount)

variable {reserveIn reserveOut amount : Int}

theorem swapOut_nonneg (inPositive : 0 < reserveIn) (outNonneg : 0 ≤ reserveOut)
    (amountNonneg : 0 ≤ amount) : 0 ≤ swapOut reserveIn reserveOut amount :=
  Int.ediv_nonneg (mul_nonneg outNonneg amountNonneg) (by omega)

theorem swapOut_mul_le (reserveOut : Int) (positive : 0 < reserveIn + amount) :
    swapOut reserveIn reserveOut amount * (reserveIn + amount) ≤ reserveOut * amount :=
  Int.ediv_mul_le _ positive.ne'

theorem swapOut_lt (inPositive : 0 < reserveIn) (outPositive : 0 < reserveOut)
    (amountNonneg : 0 ≤ amount) : swapOut reserveIn reserveOut amount < reserveOut := by
  have total : 0 < reserveIn + amount := by omega
  rw [swapOut, Int.ediv_lt_iff_lt_mul total]
  nlinarith

/-- The product of the reserves does not fall. -/
theorem product_le {kept paid : Int} (inPositive : 0 < reserveIn) (outPositive : 0 < reserveOut)
    (amountNonneg : 0 ≤ amount) (keeps : amount ≤ kept)
    (pays : paid ≤ swapOut reserveIn reserveOut amount) :
    reserveIn * reserveOut ≤ (reserveIn + kept) * (reserveOut - paid) := by
  have total : 0 < reserveIn + amount := by omega
  have priced := swapOut_mul_le reserveOut total
  have left : 0 < reserveOut - swapOut reserveIn reserveOut amount :=
    sub_pos.mpr (swapOut_lt inPositive outPositive amountNonneg)
  calc reserveIn * reserveOut
      ≤ (reserveIn + amount) * (reserveOut - swapOut reserveIn reserveOut amount) := by linarith
    _ ≤ (reserveIn + kept) * (reserveOut - paid) :=
        mul_le_mul (by omega) (by omega) left.le (by omega)

/-- Swapping the output back against the same reserves returns at most the amount. -/
theorem swapOut_back_same (inPositive : 0 < reserveIn) (outPositive : 0 < reserveOut)
    (amountNonneg : 0 ≤ amount) :
    swapOut reserveOut reserveIn (swapOut reserveIn reserveOut amount) ≤ amount := by
  have total : 0 < reserveIn + amount := by omega
  have priced := swapOut_mul_le reserveOut total
  have given := swapOut_nonneg inPositive outPositive.le amountNonneg
  generalize swapOut reserveIn reserveOut amount = out at *
  refine Int.ediv_le_of_le_mul (by omega) ?_
  nlinarith

/-- Swapping the output back against the reserves after the swap, which took in at most `entered`,
returns less than that. -/
theorem swapOut_back_after {entered reserveIn' : Int} (inPositive : 0 < reserveIn)
    (outPositive : 0 < reserveOut) (amountNonneg : 0 ≤ amount) (costs : amount < entered)
    (bounded : reserveIn' ≤ reserveIn + entered) :
    swapOut (reserveOut - swapOut reserveIn reserveOut amount) reserveIn'
      (swapOut reserveIn reserveOut amount) < entered := by
  have total : 0 < reserveIn + amount := by omega
  have priced := swapOut_mul_le reserveOut total
  have given := swapOut_nonneg inPositive outPositive.le amountNonneg
  have below := swapOut_lt inPositive outPositive amountNonneg
  generalize swapOut reserveIn reserveOut amount = out at *
  unfold swapOut
  rw [sub_add_cancel, Int.ediv_lt_iff_lt_mul outPositive]
  have unpriced : (entered - amount) * out < (entered - amount) * reserveOut :=
    mul_lt_mul_of_pos_left below (by omega)
  calc reserveIn' * out
      ≤ (reserveIn + entered) * out := mul_le_mul_of_nonneg_right bounded given
    _ = out * (reserveIn + amount) + (entered - amount) * out := by ring
    _ < reserveOut * amount + (entered - amount) * reserveOut := add_lt_add_of_le_of_lt priced unpriced
    _ = entered * reserveOut := by ring

/-- What has to be put in for an output of `amount`, rounded up past the exact price. -/
def costIn (reserveIn reserveOut amount : Int) : Int :=
  reserveIn * amount / (reserveOut - amount) + 1

theorem costIn_pos (inNonneg : 0 ≤ reserveIn) (amountNonneg : 0 ≤ amount)
    (below : amount < reserveOut) : 0 < costIn reserveIn reserveOut amount := by
  have exact : 0 ≤ reserveIn * amount / (reserveOut - amount) :=
    Int.ediv_nonneg (mul_nonneg inNonneg amountNonneg) (by omega)
  unfold costIn
  omega

/-- Swapping a bought output back against the reserves after the purchase returns at most its cost. -/
theorem swapOut_back_cost (amountNonneg : 0 ≤ amount) (below : amount < reserveOut) :
    swapOut (reserveOut - amount) (reserveIn + costIn reserveIn reserveOut amount) amount ≤
      costIn reserveIn reserveOut amount := by
  have left : 0 < reserveOut - amount := by omega
  have covered : reserveIn * amount < costIn reserveIn reserveOut amount * (reserveOut - amount) :=
    Int.lt_ediv_add_one_mul_self _ left
  generalize costIn reserveIn reserveOut amount = cost at *
  unfold swapOut
  rw [sub_add_cancel]
  refine Int.ediv_le_of_le_mul (by omega) ?_
  calc (reserveIn + cost) * amount
      = reserveIn * amount + cost * amount := by ring
    _ ≤ cost * (reserveOut - amount) + cost * amount := by omega
    _ = cost * reserveOut := by ring

end SolTokenListener.Lib.ConstantProduct
