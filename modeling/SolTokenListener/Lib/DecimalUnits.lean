import Mathlib.Data.Nat.Digits.Lemmas

/-!
# Decimal texts of numbers, in units

The decimal text of a natural number as character codes, and the number of a text.
-/

namespace SolTokenListener.Lib.DecimalUnits

def isDigit (unit : Nat) : Bool := 48 ≤ unit ∧ unit ≤ 57

def natUnits (number : Nat) : List Nat :=
  if number = 0 then [48] else (Nat.digits 10 number).reverse.map (48 + ·)

def natOfUnits (text : List Nat) : Nat := Nat.ofDigits 10 (text.reverse.map (· - 48))

/-- A decimal without leading zeros. -/
def isPositive : List Nat → Bool
  | [] => false
  | unit :: rest => isDigit unit ∧ unit ≠ 48 ∧ rest.all isDigit

theorem digits_natUnits {number : Nat} (nonzero : number ≠ 0) :
    (natUnits number).reverse.map (· - 48) = Nat.digits 10 number := by
  simp only [natUnits, if_neg nonzero, List.map_reverse, List.reverse_reverse, List.map_map]
  conv_rhs => rw [← List.map_id (Nat.digits 10 number)]
  refine List.map_congr_left fun digit _ => ?_
  simp

theorem natOfUnits_natUnits (number : Nat) : natOfUnits (natUnits number) = number := by
  by_cases zero : number = 0
  · subst zero
    decide
  · rw [natOfUnits, digits_natUnits zero, Nat.ofDigits_digits]

theorem isDigit_natUnits (number : Nat) : ∀ unit ∈ natUnits number, isDigit unit = true := by
  intro unit member
  by_cases zero : number = 0
  · rw [natUnits, if_pos zero, List.mem_singleton] at member
    rw [member]
    decide
  · simp only [natUnits, if_neg zero, List.mem_map, List.mem_reverse] at member
    obtain ⟨digit, isOne, rfl⟩ := member
    have bound := Nat.digits_lt_base (by decide) isOne
    simp only [isDigit, decide_eq_true_eq]
    omega

theorem isPositive_natUnits {number : Nat} (nonzero : number ≠ 0) :
    isPositive (natUnits number) = true := by
  have digits := isDigit_natUnits number
  have nonempty : Nat.digits 10 number ≠ [] := Nat.digits_ne_nil_iff_ne_zero.mpr nonzero
  have last := Nat.getLast_digit_ne_zero 10 nonzero
  have head : (natUnits number).head? = some (48 + (Nat.digits 10 number).getLast nonempty) := by
    rw [natUnits, if_neg nonzero, List.head?_map, List.head?_reverse,
      List.getLast?_eq_some_getLast nonempty]
    rfl
  cases shape : natUnits number with
  | nil => simp [shape] at head
  | cons unit rest =>
    rw [shape] at digits head
    simp only [List.head?_cons, Option.some.injEq] at head
    simp only [isPositive, List.all_eq_true, decide_eq_true_eq]
    exact ⟨digits unit (List.mem_cons_self ..), by omega,
      fun other member => digits other (List.mem_cons_of_mem _ member)⟩

end SolTokenListener.Lib.DecimalUnits
