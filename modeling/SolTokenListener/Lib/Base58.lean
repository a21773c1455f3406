import Mathlib.Data.Nat.Digits.Lemmas

/-!
# Base58 texts of bytes

The digits of the bytes read as one big-endian number, after one `1` for each leading zero byte. Bytes
of one length have different texts.
-/

namespace SolTokenListener.Lib.Base58

def ALPHABET : List Char := "123456789ABCDEFGHJKLMNPQRSTUVWXYZabcdefghijkmnopqrstuvwxyz".toList

def digitChar (digit : Nat) : Char := ALPHABET.getD digit '1'

def charDigit (char : Char) : Nat := ALPHABET.idxOf char

variable (bytes : List UInt8) (chars : List Char)

/-- The bytes as one number, the first byte highest. -/
def bigEndian : Nat := Nat.ofDigits 256 (bytes.reverse.map UInt8.toNat)

def encode : String :=
  String.ofList (List.replicate (bytes.takeWhile (· = 0)).length '1' ++
    (Nat.digits 58 (bigEndian bytes)).reverse.map digitChar)

/-- The number a text stands for. -/
def value : Nat := Nat.ofDigits 58 (chars.reverse.map charDigit)

theorem charDigit_digitChar : ∀ digit < 58, charDigit (digitChar digit) = digit := by decide

theorem map_charDigit_digitChar {digits : List Nat} (small : ∀ digit ∈ digits, digit < 58) :
    (digits.map digitChar).map charDigit = digits := by
  rw [List.map_map]
  exact (List.map_congr_left fun digit member => charDigit_digitChar digit (small digit member)).trans
    (List.map_id digits)

theorem value_encode : value (encode bytes).toList = bigEndian bytes := by
  have small : ∀ digit ∈ Nat.digits 58 (bigEndian bytes), digit < 58 :=
    fun digit member => Nat.digits_lt_base (by decide) member
  have one : charDigit '1' = 0 := rfl
  rw [encode, String.toList_ofList, value, List.reverse_append, List.map_append, ← List.map_reverse,
    List.reverse_reverse, map_charDigit_digitChar small, List.reverse_replicate, List.map_replicate,
    one, Nat.ofDigits_append, Nat.ofDigits_replicate_zero, Nat.mul_zero, Nat.add_zero, Nat.ofDigits_digits]

/-! ## Numerals with leading zeros -/

def leadingZeros (digits : List Nat) : Nat := (digits.takeWhile (· = 0)).length

/-- A numeral is its leading zeros and the digits of its number, the highest first. -/
theorem replicate_append_digits {base : Nat} (large : 1 < base) {numeral : List Nat}
    (small : ∀ digit ∈ numeral, digit < base) :
    List.replicate (leadingZeros numeral) 0 ++ (Nat.digits base (Nat.ofDigits base numeral.reverse)).reverse =
      numeral := by
  induction numeral with
  | nil => simp [leadingZeros]
  | cons digit rest ih =>
    obtain ⟨firstSmall, restSmall⟩ := List.forall_mem_cons.mp small
    rw [leadingZeros, List.reverse_cons]
    cases digit with
    | zero =>
      have value : Nat.ofDigits base (rest.reverse ++ [0]) = Nat.ofDigits base rest.reverse := by
        rw [Nat.ofDigits_append, Nat.ofDigits_singleton, Nat.mul_zero, Nat.add_zero]
      rw [List.takeWhile_cons_of_pos (by rfl), List.length_cons, List.replicate_succ, List.cons_append, value]
      exact congrArg (0 :: ·) (ih restSmall)
    | succ digit =>
      rw [List.takeWhile_cons_of_neg (by simp), Nat.digits_ofDigits base large]
      · simp
      · simpa [or_imp, forall_and] using ⟨restSmall, firstSmall⟩
      · simp

theorem leadingZeros_add_length {base : Nat} (large : 1 < base) {numeral : List Nat}
    (small : ∀ digit ∈ numeral, digit < base) :
    leadingZeros numeral + (Nat.digits base (Nat.ofDigits base numeral.reverse)).length = numeral.length := by
  have lengths := congrArg List.length (replicate_append_digits large small)
  simpa using lengths

theorem bytes_small : ∀ digit ∈ bytes.map UInt8.toNat, digit < 256 := by
  intro digit member
  obtain ⟨byte, -, rfl⟩ := List.mem_map.mp member
  exact byte.toNat_lt

theorem bigEndian_eq : bigEndian bytes = Nat.ofDigits 256 (bytes.map UInt8.toNat).reverse := by
  rw [bigEndian, List.map_reverse]

theorem leadingZeros_bytes :
    (bytes.takeWhile (· = 0)).length = leadingZeros (bytes.map UInt8.toNat) := by
  rw [leadingZeros, List.takeWhile_map, List.length_map]
  congr 2
  funext byte
  simp [← UInt8.toNat_inj]

/-- The leading zero bytes and the bytes of the number are all bytes. -/
theorem leadingZeros_add_bytes :
    leadingZeros (bytes.map UInt8.toNat) + (Nat.digits 256 (bigEndian bytes)).length = bytes.length := by
  rw [bigEndian_eq, leadingZeros_add_length (by decide) (bytes_small bytes), List.length_map]

theorem toList_encode : (encode bytes).toList =
    (List.replicate (leadingZeros (bytes.map UInt8.toNat)) 0 ++ (Nat.digits 58 (bigEndian bytes)).reverse).map
      digitChar := by
  rw [encode, String.toList_ofList, leadingZeros_bytes, List.map_append, List.map_replicate]
  rfl

/-- What the alphabet passes character by character. -/
theorem forall_alphabet {property : Char → Prop} [DecidablePred property]
    (passes : ALPHABET.all (decide <| property ·) = true) : ∀ char ∈ ALPHABET, property char :=
  fun char member => of_decide_eq_true (List.all_eq_true.mp passes char member)

theorem charDigit_lt : ∀ char ∈ ALPHABET, charDigit char < 58 := forall_alphabet (by decide)

theorem digitChar_charDigit : ∀ char ∈ ALPHABET, digitChar (charDigit char) = char := forall_alphabet (by decide)

theorem digitChar_mem : ∀ digit < 58, digitChar digit ∈ ALPHABET := by decide

theorem encode_mem_alphabet : ∀ char ∈ (encode bytes).toList, char ∈ ALPHABET := by
  intro char member
  rw [toList_encode] at member
  obtain ⟨digit, isDigit, rfl⟩ := List.mem_map.mp member
  apply digitChar_mem
  rcases List.mem_append.mp isDigit with zero | isDigit
  · rw [List.eq_of_mem_replicate zero]
    decide
  · exact Nat.digits_lt_base (by decide) (List.mem_reverse.mp isDigit)

theorem digits_small {chars : List Char} (digits : ∀ char ∈ chars, char ∈ ALPHABET) :
    ∀ digit ∈ chars.map charDigit, digit < 58 := by
  intro digit member
  obtain ⟨char, isChar, rfl⟩ := List.mem_map.mp member
  exact charDigit_lt char (digits char isChar)

/-- A text and its bytes have the same leading zeros. -/
theorem leadingZeros_encode :
    leadingZeros ((encode bytes).toList.map charDigit) = leadingZeros (bytes.map UInt8.toNat) := by
  have split := leadingZeros_add_length (by decide) (digits_small (encode_mem_alphabet bytes))
  have number : Nat.ofDigits 58 ((encode bytes).toList.map charDigit).reverse = bigEndian bytes := by
    rw [← List.map_reverse]
    exact value_encode bytes
  have length := congrArg List.length (toList_encode bytes)
  simp only [List.length_map, List.length_append, List.length_replicate, List.length_reverse] at length
  rw [number, List.length_map] at split
  omega

/-- The bytes a text of digits stands for. -/
def decode : List UInt8 :=
  List.replicate (leadingZeros (chars.map charDigit)) 0 ++ (Nat.digits 256 (value chars)).reverse.map UInt8.ofNat

theorem length_decode : (decode chars).length =
    leadingZeros (chars.map charDigit) + (Nat.digits 256 (value chars)).length := by
  rw [decode, List.length_append, List.length_replicate, List.length_map, List.length_reverse]

theorem map_toNat_decode : (decode chars).map UInt8.toNat =
    List.replicate (leadingZeros (chars.map charDigit)) 0 ++ (Nat.digits 256 (value chars)).reverse := by
  have back : ((Nat.digits 256 (value chars)).reverse.map UInt8.ofNat).map UInt8.toNat =
      (Nat.digits 256 (value chars)).reverse := by
    rw [List.map_map]
    refine (List.map_congr_left fun digit member => ?_).trans (List.map_id _)
    exact UInt8.toNat_ofNat_of_lt' (Nat.digits_lt_base (by decide) (List.mem_reverse.mp member))
  rw [decode, List.map_append, back, List.map_replicate]
  rfl

theorem bigEndian_decode : bigEndian (decode chars) = value chars := by
  rw [bigEndian_eq, map_toNat_decode, List.reverse_append, List.reverse_reverse, Nat.ofDigits_append,
    List.reverse_replicate, Nat.ofDigits_digits, Nat.ofDigits_replicate_zero, Nat.mul_zero, Nat.add_zero]

theorem encode_decode {chars : List Char} (digits : ∀ char ∈ chars, char ∈ ALPHABET) :
    (encode (decode chars)).toList = chars := by
  have numeral := replicate_append_digits (by decide) (digits_small digits)
  rw [← List.map_reverse] at numeral
  have zeros := leadingZeros_add_bytes (decode chars)
  rw [bigEndian_decode, length_decode] at zeros
  rw [toList_encode, bigEndian_decode, Nat.add_right_cancel zeros, value, numeral, List.map_map]
  exact (List.map_congr_left fun char member => digitChar_charDigit char (digits char member)).trans
    (List.map_id chars)

/-- A text encodes as many bytes as its leading zeros and the bytes of its number together. -/
theorem exists_encode_iff {chars : List Char} (digits : ∀ char ∈ chars, char ∈ ALPHABET) (size : Nat) :
    leadingZeros (chars.map charDigit) + (Nat.digits 256 (value chars)).length = size ↔
      ∃ bytes : List UInt8, bytes.length = size ∧ (encode bytes).toList = chars := by
  constructor
  · intro count
    exact ⟨decode chars, (length_decode chars).trans count, encode_decode digits⟩
  · rintro ⟨bytes, rfl, rfl⟩
    rw [leadingZeros_encode, value_encode]
    exact leadingZeros_add_bytes bytes

/-- A text is at least as long as its bytes. -/
theorem length_le_length_encode : bytes.length ≤ (encode bytes).toList.length := by
  have shorter : (Nat.digits 256 (bigEndian bytes)).length ≤ (Nat.digits 58 (bigEndian bytes)).length := by
    rw [Nat.digits_length_le_iff (by decide)]
    calc bigEndian bytes < 58 ^ (Nat.digits 58 (bigEndian bytes)).length :=
          (Nat.digits_length_le_iff (by decide) _).mp le_rfl
      _ ≤ 256 ^ (Nat.digits 58 (bigEndian bytes)).length := Nat.pow_le_pow_left (by decide) _
  have split := leadingZeros_add_bytes bytes
  rw [toList_encode, List.length_map, List.length_append, List.length_replicate, List.length_reverse]
  omega

/-- A text is no longer than a bound that has room for every number of leading zeros. -/
theorem length_encode_le {bytes : List UInt8} {bound : Nat} (room : bytes.length ≤ bound)
    (fits : ∀ zeros ≤ bytes.length, 256 ^ (bytes.length - zeros) ≤ 58 ^ (bound - zeros)) :
    (encode bytes).toList.length ≤ bound := by
  have split := leadingZeros_add_bytes bytes
  have digits : (Nat.digits 58 (bigEndian bytes)).length ≤ bound - leadingZeros (bytes.map UInt8.toNat) := by
    rw [Nat.digits_length_le_iff (by decide)]
    have small : bigEndian bytes < 256 ^ (Nat.digits 256 (bigEndian bytes)).length :=
      (Nat.digits_length_le_iff (by decide) _).mp le_rfl
    have exact := fits (leadingZeros (bytes.map UInt8.toNat)) (by omega)
    rw [show bytes.length - leadingZeros (bytes.map UInt8.toNat) = (Nat.digits 256 (bigEndian bytes)).length by
      omega] at exact
    omega
  rw [toList_encode, List.length_map, List.length_append, List.length_replicate, List.length_reverse]
  omega

end SolTokenListener.Lib.Base58
