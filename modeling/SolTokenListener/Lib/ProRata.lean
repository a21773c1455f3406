import Mathlib.Tactic.Linarith
import Mathlib.Tactic.Ring

/-!
# Pro rata shares after a fee

A holder of some units of a whole gives up a fee, a fraction of the units rounded up, and is paid the
share of a total that the rest is of the whole, rounded down. A fraction with denominator zero is no
fee. The payment grows with the units, falls with the rate of the fee and never exceeds the total.
-/

namespace SolTokenListener.Lib.ProRata

def feeOn (units numerator denominator : Int) : Int :=
  if denominator = 0 then 0 else (units * numerator + denominator - 1) / denominator

def afterFee (units numerator denominator : Int) : Int := units - feeOn units numerator denominator

def share (part total whole : Int) : Int := part * total / whole

/-- The fraction of the units that is given up; division by zero gives zero, which is no fee. -/
def rate (numerator denominator : Int) : ℚ := numerator / denominator

variable {units more numerator denominator numerator' denominator' part part' total whole : Int}

/-! ## The fee -/

@[simp] theorem feeOn_zero_denominator : feeOn units numerator 0 = 0 := if_pos rfl

/-- Rounding up gives the least number of units that covers the fraction. -/
theorem feeOn_le_iff (positive : 0 < denominator) {bound : Int} :
    feeOn units numerator denominator ≤ bound ↔ units * numerator ≤ bound * denominator := by
  rw [feeOn, if_neg positive.ne', ← Int.lt_add_one_iff, Int.ediv_lt_iff_lt_mul positive, add_one_mul]
  omega

theorem le_feeOn_mul (positive : 0 < denominator) :
    units * numerator ≤ feeOn units numerator denominator * denominator :=
  (feeOn_le_iff positive).mp le_rfl

theorem feeOn_nonneg (unitsNonneg : 0 ≤ units) (numeratorNonneg : 0 ≤ numerator)
    (denominatorNonneg : 0 ≤ denominator) : 0 ≤ feeOn units numerator denominator := by
  have product := mul_nonneg unitsNonneg numeratorNonneg
  unfold feeOn
  split
  · exact le_rfl
  · exact Int.ediv_nonneg (by omega) denominatorNonneg

theorem feeOn_le (unitsNonneg : 0 ≤ units) (denominatorNonneg : 0 ≤ denominator)
    (fraction : denominator = 0 ∨ numerator ≤ denominator) :
    feeOn units numerator denominator ≤ units := by
  rcases denominatorNonneg.eq_or_lt with rfl | positive
  · rwa [feeOn_zero_denominator]
  · have proper : numerator ≤ denominator := fraction.resolve_left positive.ne'
    exact (feeOn_le_iff positive).mpr (mul_le_mul_of_nonneg_left proper unitsNonneg)

/-- A higher rate costs no less, whatever the fractions are written as. -/
theorem feeOn_mono_rate (unitsNonneg : 0 ≤ units) (numeratorNonneg' : 0 ≤ numerator')
    (denominatorNonneg : 0 ≤ denominator) (denominatorNonneg' : 0 ≤ denominator')
    (dearer : rate numerator denominator ≤ rate numerator' denominator') :
    feeOn units numerator denominator ≤ feeOn units numerator' denominator' := by
  have nonneg := feeOn_nonneg unitsNonneg numeratorNonneg' denominatorNonneg'
  rcases denominatorNonneg.eq_or_lt with rfl | positive
  · rwa [feeOn_zero_denominator]
  have positiveQ : (0 : ℚ) < denominator := by exact_mod_cast positive
  rcases denominatorNonneg'.eq_or_lt with rfl | positive'
  · -- the other fraction is no fee, so this one charges nothing either
    have free : (numerator : ℚ) ≤ 0 := by
      rw [rate, rate, Int.cast_zero, div_zero, div_le_iff₀ positiveQ, zero_mul] at dearer
      exact dearer
    have free : numerator ≤ 0 := by exact_mod_cast free
    rw [feeOn_zero_denominator, feeOn_le_iff positive, zero_mul]
    exact mul_nonpos_of_nonneg_of_nonpos unitsNonneg free
  · have positiveQ' : (0 : ℚ) < denominator' := by exact_mod_cast positive'
    have crossed : numerator * denominator' ≤ numerator' * denominator := by
      rw [rate, rate, div_le_div_iff₀ positiveQ positiveQ'] at dearer
      exact_mod_cast dearer
    rw [feeOn_le_iff positive]
    refine le_of_mul_le_mul_right ?_ positive'
    calc units * numerator * denominator'
        = units * (numerator * denominator') := by ring
      _ ≤ units * (numerator' * denominator) := mul_le_mul_of_nonneg_left crossed unitsNonneg
      _ = units * numerator' * denominator := by ring
      _ ≤ feeOn units numerator' denominator' * denominator' * denominator :=
          mul_le_mul_of_nonneg_right (le_feeOn_mul positive') denominatorNonneg
      _ = feeOn units numerator' denominator' * denominator * denominator' := by ring

/-! ## What is left -/

theorem afterFee_nonneg (unitsNonneg : 0 ≤ units) (denominatorNonneg : 0 ≤ denominator)
    (fraction : denominator = 0 ∨ numerator ≤ denominator) :
    0 ≤ afterFee units numerator denominator :=
  sub_nonneg.mpr (feeOn_le unitsNonneg denominatorNonneg fraction)

theorem afterFee_le (unitsNonneg : 0 ≤ units) (numeratorNonneg : 0 ≤ numerator)
    (denominatorNonneg : 0 ≤ denominator) : afterFee units numerator denominator ≤ units :=
  sub_le_self units (feeOn_nonneg unitsNonneg numeratorNonneg denominatorNonneg)

/-- Of more units no less is left: the fee grows by at most the units that were added. -/
theorem afterFee_mono (denominatorNonneg : 0 ≤ denominator)
    (fraction : denominator = 0 ∨ numerator ≤ denominator) (grows : units ≤ more) :
    afterFee units numerator denominator ≤ afterFee more numerator denominator := by
  suffices added : feeOn more numerator denominator ≤
      feeOn units numerator denominator + (more - units) by
    unfold afterFee
    omega
  rcases denominatorNonneg.eq_or_lt with rfl | positive
  · rw [feeOn_zero_denominator, feeOn_zero_denominator]
    omega
  · have proper : numerator ≤ denominator := fraction.resolve_left positive.ne'
    have covered : units * numerator ≤ feeOn units numerator denominator * denominator :=
      le_feeOn_mul positive
    rw [feeOn_le_iff positive]
    calc more * numerator
        = units * numerator + (more - units) * numerator := by ring
      _ ≤ feeOn units numerator denominator * denominator + (more - units) * denominator :=
          add_le_add covered (mul_le_mul_of_nonneg_left proper (sub_nonneg.mpr grows))
      _ = (feeOn units numerator denominator + (more - units)) * denominator := by ring

theorem afterFee_anti_rate (unitsNonneg : 0 ≤ units) (numeratorNonneg' : 0 ≤ numerator')
    (denominatorNonneg : 0 ≤ denominator) (denominatorNonneg' : 0 ≤ denominator')
    (dearer : rate numerator denominator ≤ rate numerator' denominator') :
    afterFee units numerator' denominator' ≤ afterFee units numerator denominator :=
  sub_le_sub_left (feeOn_mono_rate unitsNonneg numeratorNonneg' denominatorNonneg denominatorNonneg'
    dearer) units

/-! ## The share -/

theorem share_nonneg (partNonneg : 0 ≤ part) (totalNonneg : 0 ≤ total) (wholeNonneg : 0 ≤ whole) :
    0 ≤ share part total whole :=
  Int.ediv_nonneg (mul_nonneg partNonneg totalNonneg) wholeNonneg

theorem share_mono (totalNonneg : 0 ≤ total) (wholePositive : 0 < whole) (grows : part ≤ part') :
    share part total whole ≤ share part' total whole :=
  Int.ediv_le_ediv wholePositive (mul_le_mul_of_nonneg_right grows totalNonneg)

theorem share_le (totalNonneg : 0 ≤ total) (wholePositive : 0 < whole) (within : part ≤ whole) :
    share part total whole ≤ total := by
  refine Int.ediv_le_of_le_mul wholePositive ?_
  calc part * total
      ≤ whole * total := mul_le_mul_of_nonneg_right within totalNonneg
    _ = total * whole := mul_comm whole total

end SolTokenListener.Lib.ProRata
