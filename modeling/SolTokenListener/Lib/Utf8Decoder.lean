/-!
# The UTF-8 decoder of the WHATWG Encoding standard, fatal mode

The decoder takes one byte at a time and keeps the code point so far, how many bytes it needs and has
seen, and the boundaries of the next byte. It reads every encoded text, and gives back its characters.
-/

namespace SolTokenListener.Lib.Utf8Decoder

variable {digit codePoint seen needed lower upper value : Nat}

structure State where
  codePoint : Nat
  bytesSeen : Nat
  bytesNeeded : Nat
  lowerBoundary : Nat
  upperBoundary : Nat
  deriving DecidableEq, Repr

/-- Between two characters. -/
def State.initial : State := ⟨0, 0, 0, 0x80, 0xBF⟩

inductive Handled where
  | error
  | more (state : State)
  | codePoint (value : Nat)

/-- The first byte of a character. -/
def handleFirst (byte : Nat) : Handled :=
  if byte ≤ 0x7F then .codePoint byte
  else if 0xC2 ≤ byte ∧ byte ≤ 0xDF then .more ⟨byte % 0x20, 0, 1, 0x80, 0xBF⟩
  else if 0xE0 ≤ byte ∧ byte ≤ 0xEF then
    .more ⟨byte % 0x10, 0, 2, if byte = 0xE0 then 0xA0 else 0x80, if byte = 0xED then 0x9F else 0xBF⟩
  else if 0xF0 ≤ byte ∧ byte ≤ 0xF4 then
    .more ⟨byte % 0x08, 0, 3, if byte = 0xF0 then 0x90 else 0x80, if byte = 0xF4 then 0x8F else 0xBF⟩
  else .error

def handle (state : State) (byte : Nat) : Handled :=
  if state.bytesNeeded = 0 then handleFirst byte
  else if byte < state.lowerBoundary ∨ state.upperBoundary < byte then .error
  else
    let codePoint := state.codePoint * 0x40 + byte % 0x40
    if state.bytesSeen + 1 = state.bytesNeeded then .codePoint codePoint
    else .more ⟨codePoint, state.bytesSeen + 1, state.bytesNeeded, 0x80, 0xBF⟩

def decodeFrom (state : State) : List UInt8 → Option (List Char)
  | [] => if state.bytesNeeded = 0 then some [] else none
  | byte :: rest =>
    match handle state byte.toNat with
    | .error => none
    | .more next => decodeFrom next rest
    | .codePoint value => (decodeFrom .initial rest).map (Char.ofNat value :: ·)

/-- `TextDecoder('utf-8', fatal)` before the byte-order mark is looked at. -/
def decode (bytes : List UInt8) : Option (List Char) := decodeFrom .initial bytes

/-- The encoding of a text. -/
def encode (chars : List Char) : List UInt8 := chars.flatMap String.utf8EncodeChar

/-! ## Encoded characters are read -/

theorem decodeFrom_more {state next : State} {byte : UInt8} {rest : List UInt8}
    (more : handle state byte.toNat = .more next) :
    decodeFrom state (byte :: rest) = decodeFrom next rest := by
  rw [decodeFrom, more]

theorem decodeFrom_codePoint {state : State} {byte : UInt8} {rest : List UInt8}
    (emitted : handle state byte.toNat = .codePoint value) :
    decodeFrom state (byte :: rest) = (decodeFrom .initial rest).map (Char.ofNat value :: ·) := by
  rw [decodeFrom, emitted]

theorem toNat_ofNat (small : value < 256) : (UInt8.ofNat value).toNat = value := by
  rw [UInt8.toNat_ofNat']
  exact Nat.mod_eq_of_lt small

theorem handle_initial (byte : Nat) : handle .initial byte = handleFirst byte := if_pos rfl

theorem handle_lead_two (low : 2 ≤ digit) (high : digit < 32) :
    handle .initial (UInt8.ofNat (digit + 0xC0)).toNat = .more ⟨digit, 0, 1, 0x80, 0xBF⟩ := by
  have remainder : (digit + 0xC0) % 0x20 = digit := by omega
  rw [toNat_ofNat (by omega), handle_initial, handleFirst, if_neg (by omega), if_pos (by omega), remainder]

theorem handle_lead_three (high : digit < 16) :
    handle .initial (UInt8.ofNat (digit + 0xE0)).toNat =
      .more ⟨digit, 0, 2, if digit = 0 then 0xA0 else 0x80, if digit = 13 then 0x9F else 0xBF⟩ := by
  have remainder : (digit + 0xE0) % 0x10 = digit := by omega
  rw [toNat_ofNat (by omega), handle_initial, handleFirst, if_neg (by omega), if_neg (by omega), if_pos (by omega), remainder]
  simp only [show digit + 0xE0 = 0xE0 ↔ digit = 0 by omega, show digit + 0xE0 = 0xED ↔ digit = 13 by omega]

theorem handle_lead_four (high : digit ≤ 4) :
    handle .initial (UInt8.ofNat (digit + 0xF0)).toNat =
      .more ⟨digit, 0, 3, if digit = 0 then 0x90 else 0x80, if digit = 4 then 0x8F else 0xBF⟩ := by
  have remainder : (digit + 0xF0) % 0x08 = digit := by omega
  rw [toNat_ofNat (by omega), handle_initial, handleFirst, if_neg (by omega), if_neg (by omega), if_neg (by omega), if_pos (by omega), remainder]
  simp only [show digit + 0xF0 = 0xF0 ↔ digit = 0 by omega, show digit + 0xF0 = 0xF4 ↔ digit = 4 by omega]

/-- A continuation byte that is not the last one of its character. -/
theorem handle_inside (inside : seen + 1 < needed) (byte : Nat) :
    handle ⟨codePoint, seen, needed, lower, upper⟩ byte =
      if byte < lower ∨ upper < byte then .error
      else .more ⟨codePoint * 0x40 + byte % 0x40, seen + 1, needed, 0x80, 0xBF⟩ := by
  simp only [handle]
  rw [if_neg (show ¬ needed = 0 by omega), if_neg (show ¬ seen + 1 = needed by omega)]

/-- The last byte of a character. -/
theorem handle_last (last : seen + 1 = needed) (byte : Nat) :
    handle ⟨codePoint, seen, needed, lower, upper⟩ byte =
      if byte < lower ∨ upper < byte then .error
      else .codePoint (codePoint * 0x40 + byte % 0x40) := by
  simp only [handle]
  rw [if_neg (show ¬ needed = 0 by omega), if_pos last]

theorem handle_continues (inside : seen + 1 < needed) (small : digit < 64)
    (above : lower ≤ digit + 0x80) (below : digit + 0x80 ≤ upper) :
    handle ⟨codePoint, seen, needed, lower, upper⟩ (UInt8.ofNat (digit + 0x80)).toNat =
      .more ⟨codePoint * 0x40 + digit, seen + 1, needed, 0x80, 0xBF⟩ := by
  have remainder : (digit + 0x80) % 0x40 = digit := by omega
  rw [toNat_ofNat (by omega), handle_inside inside, if_neg (by omega), remainder]

theorem handle_ends (last : seen + 1 = needed) (small : digit < 64) (above : lower ≤ digit + 0x80)
    (below : digit + 0x80 ≤ upper) :
    handle ⟨codePoint, seen, needed, lower, upper⟩ (UInt8.ofNat (digit + 0x80)).toNat =
      .codePoint (codePoint * 0x40 + digit) := by
  have remainder : (digit + 0x80) % 0x40 = digit := by omega
  rw [toNat_ofNat (by omega), handle_last last, if_neg (by omega), remainder]

theorem decode_encodeChar (char : Char) (rest : List UInt8) :
    decode (String.utf8EncodeChar char ++ rest) = (decode rest).map (char :: ·) := by
  have valid : Nat.isValidChar char.val.toNat := char.valid
  have same : Char.ofNat char.val.toNat = char := Char.ofNat_toNat char
  unfold String.utf8EncodeChar decode
  dsimp only
  generalize char.val.toNat = value at *
  -- One case per length; the digits of the code point in base 64 are the bytes.
  split
  · next one =>
      have ascii : handle .initial (UInt8.ofNat value).toNat = .codePoint value := by
        rw [toNat_ofNat (by omega)]
        exact (handle_initial value).trans (if_pos one)
      rw [List.singleton_append, decodeFrom_codePoint ascii, same]
  split
  · next two =>
      have digits : value / 64 % 32 * 0x40 + value % 64 = value := by omega
      rw [List.cons_append, decodeFrom_more (handle_lead_two (by omega) (by omega)),
        List.singleton_append, decodeFrom_codePoint (handle_ends rfl (by omega) (by omega) (by omega)),
        digits, same]
  split
  · next three =>
      have digits : (value / 4096 % 16 * 0x40 + value / 64 % 64) * 0x40 + value % 64 = value := by omega
      rw [List.cons_append, decodeFrom_more (handle_lead_three (by omega)), List.cons_append,
        decodeFrom_more (handle_continues (by omega) (by omega) (by split <;> omega)
          (by unfold Nat.isValidChar at valid; split <;> omega)),
        List.singleton_append, decodeFrom_codePoint (handle_ends rfl (by omega) (by omega) (by omega)),
        digits, same]
  · next four =>
      have bound : value < 1114112 := by unfold Nat.isValidChar at valid; omega
      have digits : ((value / 262144 % 8 * 0x40 + value / 4096 % 64) * 0x40 + value / 64 % 64) * 0x40 +
          value % 64 = value := by omega
      rw [List.cons_append, decodeFrom_more (handle_lead_four (by omega)), List.cons_append,
        decodeFrom_more (handle_continues (by omega) (by omega) (by split <;> omega)
          (by split <;> omega)), List.cons_append,
        decodeFrom_more (handle_continues (by omega) (by omega) (by omega) (by omega)),
        List.singleton_append, decodeFrom_codePoint (handle_ends rfl (by omega) (by omega) (by omega)),
        digits, same]

theorem decode_encode (chars : List Char) : decode (encode chars) = some chars := by
  induction chars with
  | nil => rfl
  | cons char rest ih =>
    rw [encode, List.flatMap_cons, decode_encodeChar]
    exact congrArg (Option.map _) ih

/-- The code point of a character made from a valid one. -/
theorem toNat_char_ofNat (valid : Nat.isValidChar value) :
    (Char.ofNat value).val.toNat = value := by
  rw [Char.ofNat, dif_pos valid]
  rfl

end SolTokenListener.Lib.Utf8Decoder
