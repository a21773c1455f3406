import SolTokenListener.Lib.Base58
import SolTokenListener.Source.Base58PublicKeys

/-!
# The tests of public keys accept the encodings of 32 bytes

Both loops compute the number a text stands for, one as little-endian bytes and one as a big integer, and
then count its bytes and the leading ones of the text. A numeral is its leading zeros and the digits of
its number, in base 58 as in base 256, so the counts add up to 32 exactly for the texts of 32 bytes; and
such a text has between 32 and 44 characters.
-/

namespace SolTokenListener.Guarantees.PublicKeyExactness

open Lib.Base58
open Lib.JsonText (Text ascii byteLength isHigh isLow unitBytes)
open Source.Chain (isTrimmed)
open Source.FastExit (BASE58_ALPHABET carryBytes shiftDigit)
open Source.Base58PublicKeys

/-- The base58 text of 32 bytes. -/
def IsPublicKeyText (value : Text) : Prop :=
  ∃ bytes : List UInt8, bytes.length = 32 ∧ value = ascii (encode bytes)

/-! ## The loops -/

/-- The carry loop writes what is left of the carry in base 256. -/
theorem carryBytes_eq (carry : Nat) : carryBytes carry = Nat.digits 256 carry := by
  induction carry using Nat.strong_induction_on with
  | _ carry ih =>
    rw [carryBytes]
    split
    · next zero => rw [zero, Nat.digits_zero]
    · next positive =>
        rw [ih (carry / 256) (by omega), ← Nat.digits_def' (by decide) (Nat.pos_of_ne_zero positive)]

theorem encodedByteLength_eq (decoded : Nat) : encodedByteLength decoded = (Nat.digits 256 decoded).length := by
  induction decoded using Nat.strong_induction_on with
  | _ decoded ih =>
    rw [encodedByteLength]
    split
    · next zero => rw [zero, Nat.digits_zero, List.length_nil]
    · next positive =>
        rw [ih (decoded / 256) (by omega), Nat.digits_def' (by decide) (Nat.pos_of_ne_zero positive),
          List.length_cons]

/-- One pass of the byte loop multiplies the number by 58 and adds the carry. -/
theorem shiftDigit_digits (number carry : Nat) :
    shiftDigit (Nat.digits 256 number) carry = Nat.digits 256 (number * 58 + carry) := by
  induction number using Nat.strong_induction_on generalizing carry with
  | _ number ih =>
    by_cases zero : number = 0
    · rw [zero, Nat.digits_zero, shiftDigit, carryBytes_eq, Nat.zero_mul, Nat.zero_add]
    · rw [Nat.digits_def' (by decide) (Nat.pos_of_ne_zero zero), shiftDigit, ih (number / 256) (by omega),
        Nat.digits_def' (by decide) (show 0 < number * 58 + carry by omega)]
      congr 1
      · omega
      · congr 1
        omega

/-- The bytes the carry loop keeps for a number; zero is one zero byte. -/
def littleEndian (number : Nat) : List Nat := if number = 0 then [0] else Nat.digits 256 number

theorem shiftDigit_littleEndian (number digit : Nat) :
    shiftDigit (littleEndian number) digit = littleEndian (number * 58 + digit) := by
  unfold littleEndian
  split
  · next zero =>
      rw [zero, Nat.zero_mul, Nat.zero_add]
      split
      · next zeroDigit =>
          rw [zeroDigit, shiftDigit, shiftDigit, carryBytes]
          rfl
      · next positive =>
          rw [shiftDigit, shiftDigit, carryBytes_eq, Nat.zero_mul, Nat.zero_add,
            ← Nat.digits_def' (by decide) (Nat.pos_of_ne_zero positive)]
  · next positive =>
      rw [if_neg (by omega)]
      exact shiftDigit_digits number digit

theorem foldl_shiftDigit (digits : List Nat) (number : Nat) :
    digits.foldl shiftDigit (littleEndian number) =
      littleEndian (digits.foldl (fun decoded digit => decoded * 58 + digit) number) := by
  induction digits generalizing number with
  | nil => rfl
  | cons digit rest ih => rw [List.foldl_cons, List.foldl_cons, shiftDigit_littleEndian, ih]

theorem foldl_eq_ofDigits (digits : List Nat) :
    digits.foldl (fun decoded digit => decoded * 58 + digit) 0 = Nat.ofDigits 58 digits.reverse := by
  induction digits using List.reverseRecOn with
  | nil => rfl
  | append_singleton digits digit ih =>
    rw [List.foldl_append, ih, List.reverse_append, List.reverse_singleton, List.singleton_append,
      Nat.ofDigits_cons, List.foldl_cons, List.foldl_nil]
    omega

/-- The bytes that the carry loop counts. -/
theorem nonZeroBytes_eq (number : Nat) :
    (if littleEndian number = [0] then 0 else (littleEndian number).length) = (Nat.digits 256 number).length := by
  unfold littleEndian
  by_cases zero : number = 0
  · simp [zero]
  · rw [if_neg zero, if_neg]
    intro single
    have lastNonzero := Nat.getLast_digit_ne_zero 256 zero
    simp [single] at lastNonzero

/-! ## Texts of digits -/

/-- The text is spelled with these letters of the alphabet. -/
def IsDigits (value : Text) (chars : List Char) : Prop :=
  value = chars.map Char.toNat ∧ ∀ c ∈ chars, c ∈ ALPHABET

theorem alphabet_small : ∀ c ∈ ALPHABET, c.toNat < 128 := forall_alphabet (by decide)

theorem digitOf_char : ∀ c ∈ ALPHABET, digitOf [c.toNat] = some (charDigit c) :=
  forall_alphabet (by decide)

/-- Only a letter of the alphabet has a digit. -/
theorem digitOf_eq_some {character : Text} {digit : Nat} (isDigit : digitOf character = some digit) :
    ∃ c ∈ ALPHABET, character = [c.toNat] ∧ digit = charDigit c := by
  have member : character ∈ BASE58_ALPHABET.map fun c => [c.toNat] := by
    by_contra absent
    rw [digitOf, List.idxOf?_eq_none_iff.mpr absent] at isDigit
    cases isDigit
  obtain ⟨c, isChar, rfl⟩ := List.mem_map.mp member
  refine ⟨c, isChar, rfl, ?_⟩
  rw [digitOf_char c isChar] at isDigit
  exact (Option.some.inj isDigit).symm

theorem flatten_characters (value : Text) : (characters value).flatten = value := by
  induction value using characters.induct with
  | case1 => rfl
  | case2 unit => rfl
  | case3 unit next rest pair ih =>
    rw [characters, if_pos pair, List.flatten_cons, ih]
    rfl
  | case4 unit next rest notPair ih =>
    rw [characters, if_neg notPair, List.flatten_cons, ih]
    rfl

variable {value : Text}

theorem characters_small (small : ∀ unit ∈ value, unit < 128) :
    characters value = value.map ([·]) := by
  induction value using characters.induct with
  | case1 => rfl
  | case2 unit => rfl
  | case3 unit next rest pair ih =>
    have := small unit List.mem_cons_self
    have high := pair.1
    simp only [isHigh, Bool.decide_and, Bool.and_eq_true, decide_eq_true_eq] at high
    omega
  | case4 unit next rest notPair ih =>
    rw [characters, if_neg notPair, ih (List.forall_mem_cons.mp small).2]
    rfl

variable {chars : List Char}

theorem IsDigits.small (isDigits : IsDigits value chars) :
    ∀ unit ∈ value, unit < 128 := by
  rw [isDigits.1]
  intro unit member
  obtain ⟨c, isChar, rfl⟩ := List.mem_map.mp member
  exact alphabet_small c (isDigits.2 c isChar)

variable {α : Type}

theorem foldlM_digits (next : α → Nat → α) (chars : List Char) (first : α)
    (digits : ∀ c ∈ chars, c ∈ ALPHABET) :
    (chars.map fun c => [c.toNat]).foldlM (fun decoded character => (digitOf character).map (next decoded)) first =
      some ((chars.map charDigit).foldl next first) := by
  induction chars generalizing first with
  | nil => rfl
  | cons c rest ih =>
    obtain ⟨isDigit, others⟩ := List.forall_mem_cons.mp digits
    rw [List.map_cons, List.foldlM_cons, digitOf_char c isDigit, List.map_cons, List.foldl_cons]
    exact ih (next first (charDigit c)) others

theorem foldDigits_of_isDigits (next : α → Nat → α) (first : α) (isDigits : IsDigits value chars) :
    foldDigits next first value = some ((chars.map charDigit).foldl next first) := by
  rw [foldDigits, characters_small isDigits.small, isDigits.1, List.map_map]
  exact foldlM_digits next chars first isDigits.2

/-- A fold over the characters that does not fail has met letters only. -/
theorem isDigits_of_foldlM (next : α → Nat → α) (visited : List Text) (first : α) {result : α}
    (read : visited.foldlM (fun decoded character => (digitOf character).map (next decoded)) first = some result) :
    ∃ chars : List Char, visited = chars.map (fun c => [c.toNat]) ∧ ∀ c ∈ chars, c ∈ ALPHABET := by
  induction visited generalizing first with
  | nil => exact ⟨[], rfl, nofun⟩
  | cons character rest ih =>
    rw [List.foldlM_cons, Option.bind_eq_bind, Option.bind_eq_some_iff] at read
    obtain ⟨decoded, isRead, read⟩ := read
    obtain ⟨digit, isDigit, -⟩ := Option.map_eq_some_iff.mp isRead
    obtain ⟨c, isChar, rfl, -⟩ := digitOf_eq_some isDigit
    obtain ⟨chars, rfl, each⟩ := ih decoded read
    exact ⟨c :: chars, rfl, List.forall_mem_cons.mpr ⟨isChar, each⟩⟩

theorem isDigits_of_foldDigits {next : α → Nat → α} {first result : α}
    (read : foldDigits next first value = some result) : ∃ chars, IsDigits value chars := by
  obtain ⟨chars, visited, each⟩ := isDigits_of_foldlM next _ first read
  refine ⟨chars, ?_, each⟩
  rw [← flatten_characters value, visited, ← List.flatMap_def, ← List.map_eq_flatMap]

/-! ## Exactness -/

section Digits

variable (isDigits : IsDigits value chars)

include isDigits

/-- Every leading `1` stands for a leading zero byte. -/
theorem leadingOnes_eq : (value.takeWhile (· = 49)).length = leadingZeros (chars.map charDigit) := by
  have ones : ∀ c ∈ ALPHABET, c.toNat = 49 ↔ charDigit c = 0 := forall_alphabet (by decide)
  obtain ⟨rfl, digits⟩ := isDigits
  rw [leadingZeros]
  induction chars with
  | nil => rfl
  | cons c rest ih =>
    obtain ⟨isChar, others⟩ := List.forall_mem_cons.mp digits
    rw [List.map_cons, List.map_cons, List.takeWhile_cons, List.takeWhile_cons]
    simp only [ones c isChar]
    split
    · rw [List.length_cons, List.length_cons, ih others]
    · rfl

theorem leadingOneCharacters_eq :
    ((characters value).takeWhile (· = [49])).length = leadingZeros (chars.map charDigit) := by
  rw [characters_small isDigits.small, List.takeWhile_map, List.length_map, ← leadingOnes_eq isDigits]
  congr 2
  funext unit
  simp

/-- A text of letters has 32 bytes when its zeros and the bytes of its number are 32. -/
theorem isPublicKeyText_iff : IsPublicKeyText value ↔
    leadingZeros (chars.map charDigit) + (Nat.digits 256 (Lib.Base58.value chars)).length = 32 := by
  rw [exists_encode_iff isDigits.2, IsPublicKeyText, isDigits.1]
  refine exists_congr fun bytes => and_congr_right fun _ => ?_
  rw [ascii, (List.map_injective_iff.mpr fun _ _ => Char.toNat_inj.mp).eq_iff, eq_comm]

theorem byteLength_eq : byteLength value = value.length := by
  have small := isDigits.small
  clear isDigits
  induction value using characters.induct with
  | case1 => rfl
  | case2 unit =>
    rw [byteLength, unitBytes, if_pos (small unit List.mem_cons_self)]
    rfl
  | case3 unit next rest pair ih =>
    have := small unit List.mem_cons_self
    have high := pair.1
    simp only [isHigh, Bool.decide_and, Bool.and_eq_true, decide_eq_true_eq] at high
    omega
  | case4 unit next rest notPair ih =>
    obtain ⟨first, others⟩ := List.forall_mem_cons.mp small
    rw [byteLength, if_neg notPair, ih others, unitBytes, if_pos first, List.length_cons, Nat.add_comm]
    rfl

theorem isPadded_eq_false : isPadded value = false := by
  have untrimmed : ∀ c ∈ ALPHABET, isTrimmed (Char.ofNat c.toNat) = false := forall_alphabet (by decide)
  have kept : ∀ unit ∈ value, isTrimmed (Char.ofNat unit) = false := by
    rw [isDigits.1]
    intro unit member
    obtain ⟨c, isChar, rfl⟩ := List.mem_map.mp member
    exact untrimmed c (isDigits.2 c isChar)
  rw [isPadded, Bool.or_eq_false_iff, Option.any_eq_false, Option.any_eq_false]
  exact ⟨fun unit isHead => by simp [kept unit (List.mem_of_mem_head? isHead)],
    fun unit isLast => by simp [kept unit (List.mem_of_mem_getLast? isLast)]⟩

end Digits

theorem IsPublicKeyText.isDigits (isText : IsPublicKeyText value) :
    ∃ chars, IsDigits value chars := by
  obtain ⟨bytes, -, rfl⟩ := isText
  exact ⟨(encode bytes).toList, rfl, encode_mem_alphabet bytes⟩

/-- A text of 32 bytes has 32 to 44 letters. -/
theorem IsPublicKeyText.length (isText : IsPublicKeyText value) :
    32 ≤ value.length ∧ value.length ≤ 44 := by
  obtain ⟨bytes, size, rfl⟩ := isText
  rw [ascii, List.length_map]
  refine ⟨size ▸ length_le_length_encode bytes, length_encode_le (by omega) ?_⟩
  rw [size]
  decide

theorem not_isPublicKeyText {next : α → Nat → α} {first : α}
    (unread : foldDigits next first value = none) : ¬ IsPublicKeyText value := by
  intro isText
  obtain ⟨chars, isDigits⟩ := isText.isDigits
  rw [foldDigits_of_isDigits _ _ isDigits] at unread
  cases unread

theorem isCanonicalBase58PublicKey_iff (value : Text) :
    isCanonicalBase58PublicKey value = true ↔ IsPublicKeyText value := by
  unfold isCanonicalBase58PublicKey
  split
  · next outside => exact iff_of_false nofun fun isText => by have := isText.length; omega
  split
  · next unread => exact iff_of_false nofun (not_isPublicKeyText unread)
  · next decoded read =>
      obtain ⟨chars, isDigits⟩ := isDigits_of_foldDigits read
      rw [foldDigits_of_isDigits _ _ isDigits, foldl_eq_ofDigits, ← List.map_reverse] at read
      dsimp only
      rw [← Option.some.inj read, encodedByteLength_eq, leadingOnes_eq isDigits, Nat.add_comm,
        isPublicKeyText_iff isDigits]
      exact decide_eq_true_iff

theorem isCanonicalSolanaPublicKey_iff (value : Text) :
    isCanonicalSolanaPublicKey value = true ↔ IsPublicKeyText value := by
  unfold isCanonicalSolanaPublicKey
  split
  · next outside =>
      refine iff_of_false nofun fun isText => ?_
      obtain ⟨chars, isDigits⟩ := isText.isDigits
      have window := isText.length
      rw [byteLength_eq isDigits, isPadded_eq_false isDigits] at outside
      simp only [MIN_PUBLIC_KEY_TEXT_BYTES, MAX_PUBLIC_KEY_TEXT_BYTES, Bool.false_eq_true, or_false] at outside
      omega
  dsimp only
  split
  · next unread => exact iff_of_false nofun (not_isPublicKeyText unread)
  · next decoded read =>
      obtain ⟨chars, isDigits⟩ := isDigits_of_foldDigits read
      have bytes := foldl_shiftDigit (chars.map charDigit) 0
      rw [foldl_eq_ofDigits, ← List.map_reverse] at bytes
      rw [foldDigits_of_isDigits _ _ isDigits] at read
      rw [← Option.some.inj read, show ([0] : List Nat) = littleEndian 0 from rfl, bytes,
        show littleEndian 0 = [0] from rfl, nonZeroBytes_eq, leadingOneCharacters_eq isDigits,
        isPublicKeyText_iff isDigits]
      exact decide_eq_true_iff

/-- Both tests, the one that keeps bytes and the one that keeps a number, accept exactly the base58
texts of 32 bytes, for every UTF-16 text. -/
theorem publicKey_tests_exact (value : Text) :
    (isCanonicalSolanaPublicKey value = true ↔ IsPublicKeyText value) ∧
      (isCanonicalBase58PublicKey value = true ↔ IsPublicKeyText value) :=
  ⟨isCanonicalSolanaPublicKey_iff value, isCanonicalBase58PublicKey_iff value⟩

end SolTokenListener.Guarantees.PublicKeyExactness
