/-!
# Base64 texts

Three bytes are four digits of six bits, and a shorter rest is filled up with `=`. Texts are lists of
UTF-16 units. Decoding is meant for texts in groups of four; those that `isCanonical` accepts are the
encodings of non-empty byte strings.
-/

namespace SolTokenListener.Lib.Base64

/-- `A` to `Z`, `a` to `z`, `0` to `9`, `+` and `/`. -/
def digit (value : Nat) : Nat :=
  if value < 26 then 65 + value
  else if value < 52 then 71 + value
  else if value < 62 then value - 4
  else if value = 62 then 43 else 47

def digitValue (unit : Nat) : Option Nat :=
  if 65 ≤ unit ∧ unit ≤ 90 then some (unit - 65)
  else if 97 ≤ unit ∧ unit ≤ 122 then some (unit - 71)
  else if 48 ≤ unit ∧ unit ≤ 57 then some (unit + 4)
  else if unit = 43 then some 62
  else if unit = 47 then some 63
  else none

/-- The `=` that fills a group up. -/
def pad : Nat := 61

/-- A last group of one or two bytes is filled up. -/
def encode : List UInt8 → List Nat
  | [] => []
  | [a] => [digit (a.toNat / 4), digit (a.toNat % 4 * 16), pad, pad]
  | [a, b] => [digit (a.toNat / 4), digit (a.toNat % 4 * 16 + b.toNat / 16), digit (b.toNat % 16 * 4), pad]
  | a :: b :: c :: rest =>
    digit (a.toNat / 4) :: digit (a.toNat % 4 * 16 + b.toNat / 16) ::
      digit (b.toNat % 16 * 4 + c.toNat / 64) :: digit (c.toNat % 64) :: encode rest

def sextet (unit : Nat) : Nat := (digitValue unit).getD 0

def firstByte (a b : Nat) : UInt8 := UInt8.ofNat (sextet a * 4 + sextet b / 16)
def secondByte (b c : Nat) : UInt8 := UInt8.ofNat (sextet b % 16 * 16 + sextet c / 4)
def thirdByte (c d : Nat) : UInt8 := UInt8.ofNat (sextet c % 4 * 64 + sextet d)

/-- The bits that a filled-up group leaves out are ignored. -/
def decode : List Nat → List UInt8
  | a :: b :: c :: d :: rest =>
    if c = pad then [firstByte a b]
    else if d = pad then [firstByte a b, secondByte b c]
    else firstByte a b :: secondByte b c :: thirdByte c d :: decode rest
  | _ => []

def isDigit (unit : Nat) : Bool := (digitValue unit).isSome

/-- Groups of four digits. The last group may be filled up; then no bit is set in what it leaves out. -/
def isCanonical : List Nat → Bool
  | [a, b, c, d] =>
    isDigit a && isDigit b &&
      ((isDigit c && (isDigit d || (d = pad && sextet c % 4 = 0))) || (c = pad && d = pad && sextet b % 16 = 0))
  | a :: b :: c :: d :: rest => isDigit a && isDigit b && isDigit c && isDigit d && isCanonical rest
  | _ => false

/-! ## Digits -/

theorem digitValue_digit {value : Nat} (small : value < 64) : digitValue (digit value) = some value := by
  have all : ∀ small : Fin 64, digitValue (digit small.val) = some small.val := by decide
  exact all ⟨value, small⟩

theorem sextet_digit {value : Nat} (small : value < 64) : sextet (digit value) = value := by
  rw [sextet, digitValue_digit small, Option.getD_some]

theorem digit_ne_pad {value : Nat} (small : value < 64) : digit value ≠ pad := by
  intro isPad
  have none := digitValue_digit small
  rw [isPad] at none
  cases none

theorem digit_sextet {unit : Nat} (isOne : isDigit unit = true) : digit (sextet unit) = unit ∧ sextet unit < 64 := by
  obtain ⟨value, isValue⟩ := Option.isSome_iff_exists.mp isOne
  rw [sextet, isValue, Option.getD_some]
  unfold digitValue at isValue
  unfold digit
  split at isValue
  · obtain rfl := Option.some.inj isValue
    rw [if_pos (by omega)]
    omega
  split at isValue
  · obtain rfl := Option.some.inj isValue
    rw [if_neg (by omega), if_pos (by omega)]
    omega
  split at isValue
  · obtain rfl := Option.some.inj isValue
    rw [if_neg (by omega), if_neg (by omega), if_pos (by omega)]
    omega
  split at isValue
  · obtain rfl := Option.some.inj isValue
    simp [*]
  split at isValue
  · obtain rfl := Option.some.inj isValue
    simp [*]
  · cases isValue

theorem ne_pad_of_isDigit {unit : Nat} (isOne : isDigit unit = true) : unit ≠ pad := by
  rintro rfl
  cases isOne

theorem isDigit_digit {value : Nat} (small : value < 64) : isDigit (digit value) = true := by
  rw [isDigit, digitValue_digit small]
  rfl

/-! ## Bytes from digits and back -/

theorem ofNat_eq {byte : UInt8} {value : Nat} (same : value = byte.toNat) : UInt8.ofNat value = byte := by
  rw [same, UInt8.ofNat_toNat]

theorem firstByte_digits (a : UInt8) {low : Nat} (smallLow : low < 16) :
    firstByte (digit (a.toNat / 4)) (digit (a.toNat % 4 * 16 + low)) = a := by
  have small := a.toNat_lt
  refine ofNat_eq ?_
  rw [sextet_digit (by omega), sextet_digit (by omega)]
  omega

theorem secondByte_digits (b : UInt8) {high low : Nat} (smallHigh : high < 4) (smallLow : low < 4) :
    secondByte (digit (high * 16 + b.toNat / 16)) (digit (b.toNat % 16 * 4 + low)) = b := by
  have small := b.toNat_lt
  refine ofNat_eq ?_
  rw [sextet_digit (by omega), sextet_digit (by omega)]
  omega

theorem thirdByte_digits (c : UInt8) {high : Nat} (smallHigh : high < 16) :
    thirdByte (digit (high * 4 + c.toNat / 64)) (digit (c.toNat % 64)) = c := by
  have small := c.toNat_lt
  refine ofNat_eq ?_
  rw [sextet_digit (by omega), sextet_digit (by omega)]
  omega

/-- Encoding loses nothing. -/
theorem decode_encode (bytes : List UInt8) : decode (encode bytes) = bytes := by
  induction bytes using encode.induct with
  | case1 => rfl
  | case2 a =>
    have first := @firstByte_digits a 0 (by decide)
    rw [Nat.add_zero] at first
    rw [encode, decode, if_pos rfl, first]
  | case3 a b =>
    have smallB := b.toNat_lt
    have second := @secondByte_digits b (a.toNat % 4) 0 (by omega) (by decide)
    rw [Nat.add_zero] at second
    rw [encode, decode, if_neg (digit_ne_pad (by omega)), if_pos rfl, firstByte_digits a (by omega), second]
  | case4 a b c rest ih =>
    have smallB := b.toNat_lt
    have smallC := c.toNat_lt
    rw [encode, decode, if_neg (digit_ne_pad (by omega)), if_neg (digit_ne_pad (by omega)),
      firstByte_digits a (by omega), secondByte_digits b (by omega) (by omega),
      thirdByte_digits c (by omega), ih]

theorem length_encode (bytes : List UInt8) : (encode bytes).length = (bytes.length + 2) / 3 * 4 := by
  induction bytes using encode.induct with
  | case1 => rfl
  | case2 a => simp [encode]
  | case3 a b => simp [encode]
  | case4 a b c rest ih =>
    simp only [encode, List.length_cons, ih]
    omega

/-! ## Canonical texts are the encodings -/

section Groups

variable {a b c d : Nat}

theorem toNat_firstByte (isA : isDigit a = true) (isB : isDigit b = true) :
    (firstByte a b).toNat = sextet a * 4 + sextet b / 16 := by
  have smallA := (digit_sextet isA).2
  have smallB := (digit_sextet isB).2
  rw [firstByte, UInt8.toNat_ofNat']
  omega

theorem toNat_secondByte (isB : isDigit b = true) (isC : isDigit c = true) :
    (secondByte b c).toNat = sextet b % 16 * 16 + sextet c / 4 := by
  have smallB := (digit_sextet isB).2
  have smallC := (digit_sextet isC).2
  rw [secondByte, UInt8.toNat_ofNat']
  omega

theorem toNat_thirdByte (isC : isDigit c = true) (isD : isDigit d = true) :
    (thirdByte c d).toNat = sextet c % 4 * 64 + sextet d := by
  have smallC := (digit_sextet isC).2
  have smallD := (digit_sextet isD).2
  rw [thirdByte, UInt8.toNat_ofNat']
  omega

theorem digit_eq {value : Nat} (isA : isDigit a = true) (same : value = sextet a) : digit value = a := by
  rw [same, (digit_sextet isA).1]

theorem encode_three {rest : List UInt8} (isA : isDigit a = true) (isB : isDigit b = true)
    (isC : isDigit c = true) (isD : isDigit d = true) :
    encode (firstByte a b :: secondByte b c :: thirdByte c d :: rest) = a :: b :: c :: d :: encode rest := by
  have smallB := (digit_sextet isB).2
  have smallC := (digit_sextet isC).2
  have smallD := (digit_sextet isD).2
  rw [encode, toNat_firstByte isA isB, toNat_secondByte isB isC, toNat_thirdByte isC isD,
    digit_eq isA (by omega), digit_eq isB (by omega), digit_eq isC (by omega), digit_eq isD (by omega)]

theorem encode_two (isA : isDigit a = true) (isB : isDigit b = true) (isC : isDigit c = true)
    (unused : sextet c % 4 = 0) : encode [firstByte a b, secondByte b c] = [a, b, c, pad] := by
  have smallB := (digit_sextet isB).2
  have smallC := (digit_sextet isC).2
  rw [encode, toNat_firstByte isA isB, toNat_secondByte isB isC, digit_eq isA (by omega), digit_eq isB (by omega),
    digit_eq isC (by omega)]

theorem encode_one (isA : isDigit a = true) (isB : isDigit b = true) (unused : sextet b % 16 = 0) :
    encode [firstByte a b] = [a, b, pad, pad] := by
  have smallB := (digit_sextet isB).2
  rw [encode, toNat_firstByte isA isB, digit_eq isA (by omega), digit_eq isB (by omega)]

end Groups

/-- A canonical text is the only text of its bytes. -/
theorem encode_decode {text : List Nat} (canonical : isCanonical text = true) : encode (decode text) = text := by
  induction text using isCanonical.induct with
  | case1 a b c d =>
    simp only [isCanonical, Bool.and_eq_true, Bool.or_eq_true, decide_eq_true_eq] at canonical
    obtain ⟨⟨isA, isB⟩, ⟨isC, isD | ⟨rfl, unused⟩⟩ | ⟨⟨rfl, rfl⟩, unused⟩⟩ := canonical
    · rw [decode, if_neg (ne_pad_of_isDigit isC), if_neg (ne_pad_of_isDigit isD), encode_three isA isB isC isD]
      rfl
    · rw [decode, if_neg (ne_pad_of_isDigit isC), if_pos rfl, encode_two isA isB isC unused]
    · rw [decode, if_pos rfl, encode_one isA isB unused]
  | case2 a b c d rest last ih =>
    rw [isCanonical.eq_2 a b c d rest last] at canonical
    simp only [Bool.and_eq_true] at canonical
    obtain ⟨⟨⟨⟨isA, isB⟩, isC⟩, isD⟩, isRest⟩ := canonical
    rw [decode, if_neg (ne_pad_of_isDigit isC), if_neg (ne_pad_of_isDigit isD), encode_three isA isB isC isD,
      ih isRest]
  | case3 text short long =>
    rw [isCanonical.eq_3 text short long] at canonical
    cases canonical

theorem isCanonical_encode {bytes : List UInt8} (nonempty : bytes ≠ []) : isCanonical (encode bytes) = true := by
  induction bytes using encode.induct with
  | case1 => exact absurd rfl nonempty
  | case2 a =>
    have small := a.toNat_lt
    have isDigitA := @isDigit_digit (a.toNat / 4) (by omega)
    have isDigitB := @isDigit_digit (a.toNat % 4 * 16) (by omega)
    have unused : sextet (digit (a.toNat % 4 * 16)) % 16 = 0 := by
      rw [sextet_digit (by omega)]
      omega
    simp [encode, isCanonical, isDigitA, isDigitB, unused]
  | case3 a b =>
    have smallA := a.toNat_lt
    have smallB := b.toNat_lt
    have isDigitA := @isDigit_digit (a.toNat / 4) (by omega)
    have isDigitB := @isDigit_digit (a.toNat % 4 * 16 + b.toNat / 16) (by omega)
    have isDigitC := @isDigit_digit (b.toNat % 16 * 4) (by omega)
    have unused : sextet (digit (b.toNat % 16 * 4)) % 4 = 0 := by
      rw [sextet_digit (by omega)]
      omega
    simp [encode, isCanonical, isDigitA, isDigitB, isDigitC, unused]
  | case4 a b c rest ih =>
    have smallA := a.toNat_lt
    have smallB := b.toNat_lt
    have smallC := c.toNat_lt
    have isDigitA := @isDigit_digit (a.toNat / 4) (by omega)
    have isDigitB := @isDigit_digit (a.toNat % 4 * 16 + b.toNat / 16) (by omega)
    have isDigitC := @isDigit_digit (b.toNat % 16 * 4 + c.toNat / 64) (by omega)
    have isDigitD := @isDigit_digit (c.toNat % 64) (by omega)
    rw [encode]
    cases shape : encode rest with
    | nil => simp [isCanonical, isDigitA, isDigitB, isDigitC, isDigitD]
    | cons first others =>
      have more : rest ≠ [] := by
        rintro rfl
        cases shape
      rw [isCanonical, isDigitA, isDigitB, isDigitC, isDigitD, ← shape, ih more]
      · rfl
      · nofun

/-- The canonical texts are the encodings of non-empty byte strings. -/
theorem isCanonical_iff {text : List Nat} :
    isCanonical text = true ↔ ∃ bytes, bytes ≠ [] ∧ encode bytes = text := by
  constructor
  · intro canonical
    refine ⟨decode text, ?_, encode_decode canonical⟩
    intro isEmpty
    have same := encode_decode canonical
    rw [isEmpty] at same
    rw [← same] at canonical
    cases canonical
  · rintro ⟨bytes, nonempty, rfl⟩
    exact isCanonical_encode nonempty

end SolTokenListener.Lib.Base64
