import SolTokenListener.Lib.DecimalText
import SolTokenListener.Source.JitoJournal

/-!
# Amounts of the JitoSOL bot as texts

The journal keeps its amounts as decimal texts. A text the engine writes reads back as the number it
was written from, and passes the schema exactly when the number is in range.
-/

namespace SolTokenListener.Guarantees.JitoAmounts

open Lib.Checked Lib.DecimalText
open Source.JitoConfig Source.JitoJournal

/-- The number a decimal text writes. -/
def lamports (text : String) : Nat := decimalValue text.toList

theorem decimalValue_eq (digits : List Char) : decimalValue digits = Nat.ofDigitChars 10 digits 0 :=
  Nat.ofDigitChars_eq_foldl.symm

@[simp] theorem lamports_toString (number : Nat) : lamports (toString number) = number := by
  unfold lamports
  rw [toList_toString, decimalValue_eq, Nat.ofDigitChars_ten_toDigits]

@[simp] theorem lamports_zero : lamports "0" = 0 := lamports_toString 0

theorem isUnsignedDecimal_toString (number : Nat) : isUnsignedDecimal (toString number) = true := by
  unfold isUnsignedDecimal
  rw [toList_toString]
  rcases Nat.eq_zero_or_pos number with rfl | positive
  · rfl
  · obtain ⟨first, rest, digits, nonzero⟩ := head_toDigits positive
    have isDigit : ∀ c ∈ first :: rest, c.isDigit = true := by
      intro c member
      exact Nat.isDigit_of_mem_toDigits (by decide) (by decide) (digits ▸ member)
    rw [digits]
    split
    · next same => cases same
    · next same =>
        cases same
        exact absurd rfl nonzero
    · next same =>
        cases same
        simp only [decide_eq_true_eq, List.all_eq_true]
        exact ⟨isDigit first List.mem_cons_self, nonzero,
          fun c member => isDigit c (List.mem_cons_of_mem _ member)⟩

/-- An amount is a decimal text of a number in range. -/
theorem amount_eq_ok {text : String} {number : Nat} :
    amount text = .ok number ↔ isUnsignedDecimal text = true ∧ lamports text ≤ U64_MAX ∧
      lamports text = number := by
  simp only [amount, bind_eq_ok, pure_eq_ok, require_eq_ok, lamports]
  constructor
  · rintro ⟨_, decimal, _, inRange, same⟩
    exact ⟨decimal, inRange, same⟩
  · rintro ⟨decimal, inRange, same⟩
    exact ⟨(), decimal, (), inRange, same⟩

theorem isAmount_iff {text : String} :
    isAmount text = true ↔ isUnsignedDecimal text = true ∧ lamports text ≤ U64_MAX := by
  unfold isAmount
  cases read : amount text with
  | ok number =>
    obtain ⟨decimal, inRange, -⟩ := amount_eq_ok.mp read
    exact ⟨fun _ => ⟨decimal, inRange⟩, fun _ => rfl⟩
  | error fault =>
    refine ⟨nofun, fun ⟨decimal, inRange⟩ => ?_⟩
    rw [amount_eq_ok.mpr ⟨decimal, inRange, rfl⟩] at read
    cases read

/-- What the schema accepts is read as the number it writes. -/
theorem amount_of_isAmount {text : String} (isAmount : isAmount text = true) :
    amount text = .ok (lamports text) := by
  obtain ⟨decimal, inRange⟩ := isAmount_iff.mp isAmount
  exact amount_eq_ok.mpr ⟨decimal, inRange, rfl⟩

@[simp] theorem isAmount_toString {number : Nat} :
    isAmount (toString number) = true ↔ number ≤ U64_MAX := by
  rw [isAmount_iff, lamports_toString, isUnsignedDecimal_toString]
  simp

theorem toString_negative {number : Int} (negative : number < 0) :
    (toString number).toList = '-' :: Nat.toDigits 10 (-number).toNat := by
  rw [Int.toString_eq_repr, Int.repr_eq_if, if_neg (not_le.mpr negative),
    Nat.repr_eq_ofList_toDigits]
  simp

theorem toString_nonnegative {number : Int} (nonnegative : 0 ≤ number) :
    toString number = toString number.toNat := by
  rw [Int.toString_eq_repr, Int.repr_eq_if, if_pos nonnegative, Nat.toString_eq_repr]

theorem toDigits_head_ne_minus {number : Nat} {rest : List Char} :
    Nat.toDigits 10 number ≠ '-' :: rest := by
  intro same
  have digit := Nat.isDigit_of_mem_toDigits (n := number) (c := '-') (b := 10) (by decide) (by decide)
    (same ▸ List.mem_cons_self)
  exact absurd digit (by decide)

@[simp] theorem signedValue_toString (number : Int) : signedValue (toString number) = number := by
  unfold signedValue
  by_cases negative : number < 0
  · rw [toString_negative negative]
    simp only [decimalValue_eq, Nat.ofDigitChars_ten_toDigits]
    omega
  · rw [toString_nonnegative (not_lt.mp negative), toList_toString]
    split
    · next digits same => exact absurd same toDigits_head_ne_minus
    · rw [decimalValue_eq, Nat.ofDigitChars_ten_toDigits]
      omega

/-- The text of digits has as many units as digits. -/
theorem utf16Length_toDigits (number : Nat) :
    ∀ start, (Nat.toDigits 10 number).foldl
      (fun length c => length + if 0x10000 ≤ c.toNat then 2 else 1) start =
        start + (Nat.toDigits 10 number).length := by
  have small : ∀ c ∈ Nat.toDigits 10 number, ¬ 0x10000 ≤ c.toNat := by
    intro c member
    have digit := Nat.isDigit_of_mem_toDigits (by decide) (by decide) member
    simp only [Char.isDigit, Bool.and_eq_true, decide_eq_true_eq] at digit
    have below : c.toNat ≤ 57 := by
      have := UInt32.le_iff_toNat_le.mp digit.2
      simpa using this
    omega
  generalize Nat.toDigits 10 number = digits at small
  induction digits with
  | nil => intro start; rfl
  | cons first rest ih =>
    intro start
    rw [List.foldl_cons, if_neg (small first List.mem_cons_self),
      ih (fun c member => small c (List.mem_cons_of_mem _ member)), List.length_cons]
    omega

theorem isSignedDecimal_toString (number : Nat) : isSignedDecimal (toString number) = true := by
  unfold isSignedDecimal
  rw [toList_toString]
  split
  · next digits same => exact absurd same toDigits_head_ne_minus
  · exact isUnsignedDecimal_toString number

/-- The numbers whose text the schema of signed amounts accepts. -/
def FitsSigned (number : Int) : Prop := -10 ^ 23 < number ∧ number < 10 ^ 24

theorem isSigned_toString {number : Int} : isSigned (toString number) = true ↔ FitsSigned number := by
  unfold isSigned FitsSigned
  by_cases negative : number < 0
  · have decimal : isSignedDecimal (toString number) = true := by
      unfold isSignedDecimal
      rw [toString_negative negative]
      change isUnsignedDecimal (String.ofList (Nat.toDigits 10 (-number).toNat)) = true
      rw [← Nat.toString_eq_ofList_toDigits]
      exact isUnsignedDecimal_toString _
    have short := Nat.length_toDigits_le_iff (b := 10) (n := (-number).toNat) (k := 23) (by decide)
      (by decide)
    have minus : (if 0x10000 ≤ '-'.toNat then 2 else 1) = 1 := by decide
    have length : utf16Length (toString number) = 1 + (Nat.toDigits 10 (-number).toNat).length := by
      unfold utf16Length
      rw [toString_negative negative, List.foldl_cons, minus, utf16Length_toDigits]
    rw [decimal, length]
    simp only [and_true, decide_eq_true_eq]
    omega
  · have short := Nat.length_toDigits_le_iff (b := 10) (n := number.toNat) (k := 24) (by decide)
      (by decide)
    have length : utf16Length (toString number) = (Nat.toDigits 10 number.toNat).length := by
      unfold utf16Length
      rw [toString_nonnegative (not_lt.mp negative), toList_toString, utf16Length_toDigits, zero_add]
    rw [length, toString_nonnegative (not_lt.mp negative), isSignedDecimal_toString]
    simp only [and_true, decide_eq_true_eq]
    omega

end SolTokenListener.Guarantees.JitoAmounts
