import Mathlib.Data.Nat.Digits.Defs

/-!
# Decimal texts of numbers

The text of a number is its digits in base ten, and the first digit of a positive number is not zero.
-/

namespace SolTokenListener.Lib.DecimalText

theorem toList_toString (number : Nat) : (toString number).toList = Nat.toDigits 10 number := by
  rw [Nat.toString_eq_ofList_toDigits, String.toList_ofList]

/-- The first digit of a positive number is not zero. -/
theorem head_toDigits {number : Nat} (positive : 0 < number) :
    ∃ first rest, Nat.toDigits 10 number = first :: rest ∧ first ≠ '0' := by
  induction number using Nat.strong_induction_on with
  | _ number ih =>
    by_cases small : number < 10
    · have nonzero : ∀ digit < 10, 0 < digit → digit.digitChar ≠ '0' := by decide
      exact ⟨number.digitChar, [], Nat.toDigits_of_lt_base small, nonzero number small positive⟩
    · rw [Nat.toDigits_of_base_le (by omega) (not_lt.mp small)]
      obtain ⟨first, rest, digits, nonzero⟩ := ih (number / 10) (by omega) (by omega)
      exact ⟨first, rest ++ [(number % 10).digitChar], by rw [digits]; rfl, nonzero⟩

end SolTokenListener.Lib.DecimalText
