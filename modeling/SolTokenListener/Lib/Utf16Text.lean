import Mathlib.Data.List.Lex

/-!
# Texts as UTF-16 units

The order in which UTF-16 texts are compared, unit by unit. It differs from the order of code points
above U+FFFF. A lone surrogate is no character and has no counterpart here.
-/

namespace SolTokenListener.Lib.Utf16Text

def charUnits (c : Char) : List Nat :=
  if c.toNat < 0x10000 then [c.toNat]
  else [0xD800 + (c.toNat - 0x10000) / 0x400, 0xDC00 + (c.toNat - 0x10000) % 0x400]

def units (text : String) : List Nat := text.toList.flatMap charUnits

/-- `left < right` on texts. -/
def before (left right : String) : Bool := units left < units right

theorem toNat_valid (c : Char) : c.toNat < 0xD800 ∨ (0xDFFF < c.toNat ∧ c.toNat < 0x110000) :=
  c.valid

/-- Below U+10000 a character is one unit. -/
theorem length_units {text : List Char} (small : ∀ c ∈ text, c.toNat < 0x10000) :
    (units (String.ofList text)).length = text.length := by
  rw [units, String.toList_ofList]
  induction text with
  | nil => rfl
  | cons c rest ih =>
    obtain ⟨first, others⟩ := List.forall_mem_cons.mp small
    rw [List.flatMap_cons, List.length_append, ih others, charUnits, if_pos first,
      List.length_singleton, List.length_cons, Nat.add_comm]

/-- The units of a character say where it ends. -/
theorem charUnits_append_inj {first second : Char} {left right : List Nat}
    (same : charUnits first ++ left = charUnits second ++ right) : first = second ∧ left = right := by
  have firstValid := toNat_valid first
  have secondValid := toNat_valid second
  suffices codes : first.toNat = second.toNat ∧ left = right from
    ⟨Char.toNat_inj.mp codes.1, codes.2⟩
  unfold charUnits at same
  split at same <;> split at same <;>
    simp only [List.cons_append, List.nil_append, List.cons.injEq] at same
  · exact same
  · omega
  · omega
  · obtain ⟨high, low, rest⟩ := same
    exact ⟨by omega, rest⟩

theorem units_injective : Function.Injective units := by
  intro left right same
  suffices texts : ∀ first second : List Char,
      first.flatMap charUnits = second.flatMap charUnits → first = second from
    String.toList_inj.mp (texts left.toList right.toList same)
  have nonempty : ∀ c rest, charUnits c ++ rest ≠ [] := by
    intro c rest
    unfold charUnits
    split <;> simp
  intro first
  induction first with
  | nil =>
    intro second same
    cases second with
    | nil => rfl
    | cons c rest => exact absurd same.symm (nonempty c _)
  | cons c rest ih =>
    intro second same
    cases second with
    | nil => exact absurd same (nonempty c _)
    | cons d others =>
      obtain ⟨rfl, rest⟩ := charUnits_append_inj same
      rw [ih others rest]

end SolTokenListener.Lib.Utf16Text
