import Mathlib.Algebra.Order.Group.Nat

/-!
# Readers of byte formats

A reader takes a value off the front of its input or fails, and leaves what follows. Numbers are
little-endian.
-/

namespace SolTokenListener.Lib.WireFormat

/-- What is left to read, after how many bytes. -/
structure Input where
  position : Nat
  unread : List UInt8
  deriving DecidableEq, Repr

abbrev Reader (ε : Type) := StateT Input (Except ε)

section Readers

variable {ε α β : Type}

theorem bind_of_ok {read : Reader ε α} {next : α → Reader ε β} {input after : Input} {value : α}
    (ok : read input = .ok (value, after)) : (read >>= next) input = next value after := by
  change Except.bind (read input) _ = _
  rw [ok]
  rfl

theorem bind_of_error {read : Reader ε α} {next : α → Reader ε β} {input : Input} {exception : ε}
    (failed : read input = .error exception) : (read >>= next) input = .error exception := by
  change Except.bind (read input) _ = _
  rw [failed]
  rfl

theorem bind_eq_ok {read : Reader ε α} {next : α → Reader ε β} {input after : Input} {value : β} :
    (read >>= next) input = .ok (value, after) ↔
      ∃ first between, read input = .ok (first, between) ∧ next first between = .ok (value, after) := by
  constructor
  · intro ok
    cases ran : read input with
    | error exception =>
      rw [bind_of_error ran] at ok
      cases ok
    | ok result =>
      obtain ⟨first, between⟩ := result
      rw [bind_of_ok ran] at ok
      exact ⟨first, between, rfl, ok⟩
  · rintro ⟨first, between, ran, rest⟩
    rw [bind_of_ok ran, rest]

theorem pure_eq_ok {value shown : α} {input after : Input} :
    (pure value : Reader ε α) input = .ok (shown, after) ↔ value = shown ∧ input = after := by
  change Except.ok (value, input) = .ok (shown, after) ↔ _
  rw [Except.ok.injEq, Prod.mk.injEq]

/-! ## Little-endian numbers -/

def littleEndian : Nat → Nat → List UInt8
  | 0, _ => []
  | width + 1, value => UInt8.ofNat value :: littleEndian width (value / 256)

def ofLittleEndian : List UInt8 → Nat
  | [] => 0
  | byte :: rest => byte.toNat + 256 * ofLittleEndian rest

@[simp] theorem length_littleEndian (width value : Nat) : (littleEndian width value).length = width := by
  induction width generalizing value with
  | zero => rfl
  | succ width ih => rw [littleEndian, List.length_cons, ih]

theorem ofLittleEndian_lt (bytes : List UInt8) : ofLittleEndian bytes < 256 ^ bytes.length := by
  induction bytes with
  | nil => exact Nat.one_pos
  | cons byte rest ih =>
    have small := byte.toNat_lt
    rw [ofLittleEndian, List.length_cons, Nat.pow_succ]
    omega

theorem ofLittleEndian_littleEndian {width value : Nat} (fits : value < 256 ^ width) :
    ofLittleEndian (littleEndian width value) = value := by
  induction width generalizing value with
  | zero =>
    rw [Nat.pow_zero, Nat.lt_one_iff] at fits
    exact fits.symm
  | succ width ih =>
    have rest : value / 256 < 256 ^ width := by
      rw [Nat.pow_succ] at fits
      exact Nat.div_lt_of_lt_mul (by omega)
    rw [littleEndian, ofLittleEndian, ih rest, UInt8.toNat_ofNat']
    omega

end Readers

end SolTokenListener.Lib.WireFormat
