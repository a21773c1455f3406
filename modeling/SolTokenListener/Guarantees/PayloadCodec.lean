import SolTokenListener.Source.BlockTransactionPayloadCodec

/-!
# The block payload codec is lossless

The base64 test looks for the first `=` and at the unit before it. Read as one pass over the units it is the
test of the groups of four, whose texts are the encodings of non-empty byte strings. What the encoder writes,
raw or deflated, passes every check of the decoder and gives back the bytes, and it is never charged for more
than the budget.
-/

namespace SolTokenListener.Guarantees.PayloadCodec

open Lib
open Lib.Base64 (isDigit sextet digitValue pad)
open Lib.Checked
open Lib.DecimalUnits (natUnits natOfUnits natOfUnits_natUnits isPositive isDigit_natUnits
  isPositive_natUnits)
open Lib.JsonText (Text ascii)
open Source.Chain (MAX_SAFE_INTEGER isSafeInteger)
open Source.BlockTransactionPayloadCodec

/-! ## The base64 test -/

theorem isBase64Unit_eq (unit : Nat) : isBase64Unit unit = (isDigit unit || unit = 61) := by
  unfold isBase64Unit isDigit digitValue
  grind

/-- The index in the alphabet is the value of the digit. -/
theorem alphabet_idxOf (unit : Nat) : BASE64_ALPHABET.idxOf? unit = digitValue unit := by
  by_cases small : unit < 128
  · have all : ∀ small : Fin 128, BASE64_ALPHABET.idxOf? small.val = digitValue small.val := by decide +kernel
    exact all ⟨unit, small⟩
  · have units : BASE64_ALPHABET.all (· < 128) = true := by decide
    have absent : unit ∉ BASE64_ALPHABET := fun member =>
      small (of_decide_eq_true (List.all_eq_true.mp units unit member))
    rw [List.idxOf?_eq_none_iff.mpr absent, digitValue]
    grind

/-- The test as one pass over the units, after one with the given value. -/
def passes : Option Nat → Text → Bool
  | _, [] => true
  | lastValue, unit :: rest =>
    if unit = 61 then
      (rest = [] ∨ rest = [61]) ∧ lastValue.any fun value => value &&& (if rest.length = 1 then 15 else 3) = 0
    else isBase64Unit unit && passes (BASE64_ALPHABET.idxOf? unit) rest

theorem passes_eq (value : Option Nat) (text : Text) :
    passes value text =
      (text.all isBase64Unit &&
        match text.idxOf? 61 with
        | none => true
        | some paddingIndex =>
          if text.drop paddingIndex ≠ ascii "=" ∧ text.drop paddingIndex ≠ ascii "==" then false
          else
            (if paddingIndex = 0 then value
              else (text[paddingIndex - 1]?).bind (BASE64_ALPHABET.idxOf? ·)).any
              fun value => value &&& (if (text.drop paddingIndex).length = 2 then 15 else 3) = 0) := by
  induction text generalizing value with
  | nil => rfl
  | cons unit rest ih =>
    rw [passes, List.all_cons, List.idxOf?_cons]
    by_cases isPad : unit = 61
    · subst isPad
      have one : ascii "=" = [61] := by decide
      have two : ascii "==" = [61, 61] := by decide
      have isUnit : isBase64Unit 61 = true := by decide
      simp only [if_true, beq_self_eq_true, List.drop_zero, one, two, isUnit, Bool.true_and]
      by_cases single : rest = []
      · subst single
        simp
      by_cases double : rest = [61]
      · subst double
        simp [isUnit]
      · simp [single, double]
    · have notPad : (unit == 61) = false := by simpa using isPad
      rw [if_neg isPad, ih, notPad, if_neg Bool.false_ne_true, Bool.and_assoc]
      congr 2
      cases rest.idxOf? 61 with
      | none => rfl
      | some index =>
        dsimp only [Option.map_some]
        rw [List.drop_succ_cons]
        cases index <;> simp

theorem isCanonicalBase64_eq (text : Text) :
    isCanonicalBase64 text = (decide (text.length ≠ 0 ∧ text.length % 4 = 0) && passes (some 0) text) := by
  rw [passes_eq]
  unfold isCanonicalBase64
  by_cases empty : text.length = 0
  · rw [if_pos (.inl empty), decide_eq_false fun both => both.1 empty, Bool.false_and]
  by_cases groups : text.length % 4 = 0
  · rw [decide_eq_true ⟨empty, groups⟩, Bool.true_and]
    cases units : text.all isBase64Unit with
    | false => rw [if_pos (.inr (.inr rfl)), Bool.false_and]
    | true =>
      refine (if_neg ?_).trans (Bool.true_and _).symm
      simp [empty, groups]
  · rw [if_pos (.inr (.inl groups)), decide_eq_false fun both => groups both.2, Bool.false_and]

section Passes

variable {value : Option Nat} {unit last : Nat} {rest : Text}

@[simp] theorem passes_nil : passes value [] = true := rfl

theorem passes_digit (isOne : isDigit unit = true) :
    passes value (unit :: rest) = passes (some (sextet unit)) rest := by
  obtain ⟨found, isFound⟩ := Option.isSome_iff_exists.mp isOne
  have same : digitValue unit = some (sextet unit) := by rw [sextet, isFound, Option.getD_some]
  have notPad : unit ≠ 61 := Base64.ne_pad_of_isDigit isOne
  rw [passes, if_neg notPad, isBase64Unit_eq, isOne, Bool.true_or, Bool.true_and,
    alphabet_idxOf, same]

theorem passes_other (notDigit : isDigit unit = false) (notPad : unit ≠ 61) : passes value (unit :: rest) = false := by
  rw [passes, if_neg notPad, isBase64Unit_eq, notDigit, decide_eq_false notPad, Bool.or_false, Bool.false_and]

theorem passes_pad : passes (some last) [61] = decide (last % 4 = 0) := by
  have low := Nat.and_two_pow_sub_one_eq_mod last 2
  simp [passes, ← low]

theorem passes_pad_pad : passes (some last) [61, 61] = decide (last % 16 = 0) := by
  have low := Nat.and_two_pow_sub_one_eq_mod last 4
  simp [passes, ← low]

theorem passes_pad_more (more : rest ≠ []) (different : rest ≠ [61]) : passes value (61 :: rest) = false := by
  rw [passes, if_pos rfl]
  exact decide_eq_false fun both => both.1.elim more different

end Passes

theorem isDigit_pad : isDigit 61 = false := by decide

/-- A unit is a digit, the `=`, or none of the test's units. -/
theorem unit_cases (unit : Nat) : isDigit unit = true ∨ unit = 61 ∨ (isDigit unit = false ∧ unit ≠ 61) := by
  cases isDigit unit <;> by_cases isPad : unit = 61 <;> simp [isPad]

theorem isCanonical_eq (value : Option Nat) (text : Text) :
    Base64.isCanonical text = (decide (text.length ≠ 0 ∧ text.length % 4 = 0) && passes value text) := by
  induction text using Base64.isCanonical.induct generalizing value with
  | case1 a b c d =>
    rw [decide_eq_true ⟨by simp, by simp⟩, Bool.true_and, Base64.isCanonical]
    rcases unit_cases a with isA | rfl | ⟨notA, otherA⟩
    · rw [passes_digit isA, isA]
      rcases unit_cases b with isB | rfl | ⟨notB, otherB⟩
      · rw [passes_digit isB, isB]
        rcases unit_cases c with isC | rfl | ⟨notC, otherC⟩
        · have notPad : c ≠ 61 := Base64.ne_pad_of_isDigit isC
          rw [passes_digit isC, isC]
          rcases unit_cases d with isD | rfl | ⟨notD, otherD⟩
          · simp [passes_digit isD, isD]
          · simp [passes_pad, isDigit_pad, notPad, pad]
          · simp [passes_other notD otherD, notD, notPad, pad, otherD]
        · rcases unit_cases d with isD | rfl | ⟨notD, otherD⟩
          · have notPad : d ≠ 61 := Base64.ne_pad_of_isDigit isD
            simp [passes_pad_more, isDigit_pad, notPad, pad]
          · simp [passes_pad_pad, isDigit_pad, pad]
          · simp [passes_pad_more, isDigit_pad, otherD, pad]
        · simp [notC, passes_other notC otherC, otherC, pad]
      · simp [isDigit_pad, passes_pad_more]
      · simp [notB, passes_other notB otherB]
    · simp [isDigit_pad, passes_pad_more]
    · simp [notA, passes_other notA otherA]
  | case2 a b c d rest last ih =>
    rw [Base64.isCanonical.eq_2 a b c d rest last]
    rcases unit_cases a with isA | rfl | ⟨notA, otherA⟩
    · rcases unit_cases b with isB | rfl | ⟨notB, otherB⟩
      · rcases unit_cases c with isC | rfl | ⟨notC, otherC⟩
        · rcases unit_cases d with isD | rfl | ⟨notD, otherD⟩
          · have more : rest ≠ [] := last
            have length : (a :: b :: c :: d :: rest).length = rest.length + 4 := rfl
            rw [ih (some (sextet d)), isA, isB, isC, isD, passes_digit isA, passes_digit isB, passes_digit isC,
              passes_digit isD, length, Nat.add_mod_right]
            simp [more]
          · by_cases single : rest = [61]
            · simp [single, isDigit_pad]
            · simp [isA, isB, isC, isDigit_pad, passes_digit, passes_pad_more last single]
          · simp [isA, isB, isC, notD, passes_digit, passes_other notD otherD]
        · have more : d :: rest ≠ [61] := fun same => last (List.cons.inj same).2
          simp [isA, isB, isDigit_pad, passes_digit, passes_pad_more (List.cons_ne_nil d rest) more]
        · simp [isA, isB, notC, passes_digit, passes_other notC otherC]
      · simp [isA, isDigit_pad, passes_digit, passes_pad_more]
      · simp [isA, notB, passes_digit, passes_other notB otherB]
    · simp [isDigit_pad, passes_pad_more]
    · simp [notA, passes_other notA otherA]
  | case3 text short long =>
    rw [Base64.isCanonical.eq_3 text short long]
    rcases text with _ | ⟨a, _ | ⟨b, _ | ⟨c, _ | ⟨d, rest⟩⟩⟩⟩
    · rfl
    · rfl
    · rfl
    · rfl
    · exact (long a b c d rest rfl).elim

theorem isCanonicalBase64_iff (text : Text) :
    isCanonicalBase64 text = true ↔ ∃ bytes, bytes ≠ [] ∧ Base64.encode bytes = text := by
  rw [isCanonicalBase64_eq, ← isCanonical_eq, Base64.isCanonical_iff]

/-! ## What the decoder accepts -/

theorem colon_free_encode (bytes : List UInt8) : 58 ∉ Base64.encode bytes := by
  intro member
  have canonical : isCanonicalBase64 (Base64.encode bytes) = true := by
    refine (isCanonicalBase64_iff _).mpr ⟨bytes, ?_, rfl⟩
    rintro rfl
    cases member
  unfold isCanonicalBase64 at canonical
  split at canonical
  · cases canonical
  · next checked =>
      have units : (Base64.encode bytes).all isBase64Unit = true := by
        simpa using (not_or.mp (not_or.mp checked).2).2
      exact absurd (List.all_eq_true.mp units 58 member) (by decide)

theorem colon_free_natUnits (number : Nat) : 58 ∉ natUnits number :=
  fun member => absurd (isDigit_natUnits number 58 member) (by decide)

section Codec

variable (runtime : Runtime)

theorem colon_free_sha256Hex (bytes : List UInt8) : 58 ∉ runtime.sha256Hex bytes :=
  fun member => absurd (runtime.isHex_sha256Hex bytes 58 member) (by decide)

def payloadOf (mode : Text) (original stored : List UInt8) : Text :=
  [58].intercalate [ascii "b1", mode, natUnits original.length, runtime.sha256Hex original, Base64.encode stored]

theorem splitOn_payloadOf {mode : Text} (isMode : mode = ascii "r" ∨ mode = ascii "d") (original stored : List UInt8) :
    (payloadOf runtime mode original stored).splitOn 58 =
      [ascii "b1", mode, natUnits original.length, runtime.sha256Hex original, Base64.encode stored] := by
  refine List.splitOn_intercalate 58 (fun field member => ?_) (List.cons_ne_nil _ _)
  simp only [List.mem_cons, List.not_mem_nil, or_false] at member
  rcases member with rfl | rfl | rfl | rfl | rfl
  · decide
  · rcases isMode with rfl | rfl <;> decide
  · exact colon_free_natUnits _
  · exact colon_free_sha256Hex runtime original
  · exact colon_free_encode stored

/-- Stored bytes of a fitting length that give the original bytes back pass every check. -/
theorem decodeBytes_payloadOf {mode : Text} {original stored : List UInt8}
    (isMode : mode = ascii "r" ∨ mode = ascii "d") (nonempty : original ≠ []) (storedNonempty : stored ≠ [])
    (safe : isSafeInteger original.length = true)
    (small : mode = ascii "d" → original.length ≤ MAX_COMPRESSED_TRANSACTION_BYTES)
    (raw : mode = ascii "r" → (Base64.encode stored).length = base64Length original.length)
    (shorter : mode = ascii "d" → (Base64.encode stored).length ≤ base64Length original.length)
    (restored : originalBytes runtime mode stored original.length = .ok original) :
    decodeBytes runtime (payloadOf runtime mode original stored) = .ok original := by
  have positive : isPositive (natUnits original.length) = true :=
    isPositive_natUnits (List.length_eq_zero_iff.not.mpr nonempty)
  have hex : (runtime.sha256Hex original).all isHexUnit = true :=
    List.all_eq_true.mpr (runtime.isHex_sha256Hex original)
  have canonical : isCanonicalBase64 (Base64.encode stored) = true :=
    (isCanonicalBase64_iff _).mpr ⟨stored, storedNonempty, rfl⟩
  unfold decodeBytes
  rw [splitOn_payloadOf runtime isMode]
  simp only [bind_eq_ok, require_eq_ok, pure_eq_ok, natOfUnits_natUnits, Base64.decode_encode]
  exact ⟨(), ⟨trivial, isMode, positive, runtime.length_sha256Hex original, hex⟩, (), ⟨safe, trivial, small⟩, (),
    ⟨raw, shorter, canonical⟩, (), trivial, original, restored, (), ⟨rfl, rfl⟩, rfl⟩

/-! ## What the encoder writes -/

variable {runtime} {serialized : Uint8Array} {remainingCompressionBytes : Int} {encoded : EncodedPayload}

/-- The payload is raw or deflated, and charged when deflating was tried. -/
theorem encode_cases (accepted : encodeBlockTransactionPayload runtime serialized remainingCompressionBytes = .ok encoded) :
    serialized.bytes ≠ [] ∧ 0 ≤ remainingCompressionBytes ∧
      (encoded.compressionInputBytes = 0 ∨
        (encoded.compressionInputBytes : Int) = serialized.bytes.length ∧
          (serialized.bytes.length : Int) ≤ remainingCompressionBytes) ∧
      (encoded.payload = payloadOf runtime (ascii "r") serialized.bytes serialized.bytes ∨
        encoded.payload = payloadOf runtime (ascii "d") serialized.bytes (runtime.deflateRawSync serialized.bytes) ∧
          serialized.bytes.length ≤ MAX_COMPRESSED_TRANSACTION_BYTES ∧
          base64Length (runtime.deflateRawSync serialized.bytes).length < base64Length serialized.bytes.length) := by
  unfold encodeBlockTransactionPayload at accepted
  simp only [bind_eq_ok, require_eq_ok] at accepted
  obtain ⟨-, ⟨-, nonnegative, -, nonzero⟩, written⟩ := accepted
  refine ⟨fun isEmpty => nonzero (List.length_eq_zero_iff.mpr isEmpty), nonnegative, ?_⟩
  split at written
  · next within =>
      split at written
      · next shorter =>
          rw [pure_eq_ok] at written
          subst written
          exact ⟨.inr ⟨rfl, within.2⟩, .inr ⟨rfl, within.1, shorter⟩⟩
      · rw [pure_eq_ok] at written
        subst written
        exact ⟨.inr ⟨rfl, within.2⟩, .inl rfl⟩
  · rw [pure_eq_ok] at written
    subst written
    exact ⟨.inl rfl, .inl rfl⟩

theorem encode_accepts :
    (∃ encoded, encodeBlockTransactionPayload runtime serialized remainingCompressionBytes = .ok encoded) ↔
      serialized.bytes ≠ [] ∧ 0 ≤ remainingCompressionBytes ∧
        remainingCompressionBytes ≤ MAX_BLOCK_COMPRESSION_INPUT_BYTES := by
  unfold encodeBlockTransactionPayload
  constructor
  · rintro ⟨encoded, accepted⟩
    simp only [bind_eq_ok, require_eq_ok] at accepted
    obtain ⟨-, ⟨-, nonnegative, bounded, nonzero⟩, -⟩ := accepted
    exact ⟨fun isEmpty => nonzero (List.length_eq_zero_iff.mpr isEmpty), nonnegative, bounded⟩
  · rintro ⟨nonempty, nonnegative, bounded⟩
    have safe : isSafeInteger remainingCompressionBytes = true := by
      unfold MAX_BLOCK_COMPRESSION_INPUT_BYTES at bounded
      unfold isSafeInteger MAX_SAFE_INTEGER
      exact decide_eq_true ⟨by omega, by omega⟩
    have nonzero : serialized.bytes.length ≠ 0 := List.length_eq_zero_iff.not.mpr nonempty
    simp only [bind_eq_ok, require_eq_ok]
    -- Past the guard each branch returns.
    split
    · split
      · exact ⟨_, (), ⟨safe, nonnegative, bounded, nonzero⟩, rfl⟩
      · exact ⟨_, (), ⟨safe, nonnegative, bounded, nonzero⟩, rfl⟩
    · exact ⟨_, (), ⟨safe, nonnegative, bounded, nonzero⟩, rfl⟩

theorem deflateRawSync_ne_nil (bytes : List UInt8) : runtime.deflateRawSync bytes ≠ [] := by
  intro isEmpty
  have inflated := runtime.inflate_deflate bytes bytes.length (Nat.le_refl _)
  rw [isEmpty, runtime.inflate_nil] at inflated
  cases inflated

theorem decodeBytes_encode
    (accepted : encodeBlockTransactionPayload runtime serialized remainingCompressionBytes = .ok encoded) :
    decodeBytes runtime encoded.payload = .ok serialized.bytes := by
  obtain ⟨nonempty, -, -, raw | ⟨deflated, small, shorter⟩⟩ := encode_cases accepted
  · rw [raw]
    refine decodeBytes_payloadOf runtime (.inl rfl) nonempty nonempty serialized.byteLength_safe ?_ ?_ ?_ rfl
    · intro other
      exact absurd other (by decide)
    · intro _
      exact Base64.length_encode serialized.bytes
    · intro _
      exact (Base64.length_encode serialized.bytes).le
  · rw [deflated]
    have length := Base64.length_encode (runtime.deflateRawSync serialized.bytes)
    refine decodeBytes_payloadOf runtime (.inr rfl) nonempty (deflateRawSync_ne_nil _) serialized.byteLength_safe
      (fun _ => small) ?_ ?_ ?_
    · intro other
      exact absurd other (by decide)
    · intro _
      rw [length]
      exact shorter.le
    · rw [originalBytes, if_pos rfl, runtime.inflate_deflate _ _ (Nat.le_refl _)]
      exact if_neg (fun different => different rfl)

end Codec

/-! ## A runtime -/

/-- The text of twenty `A` as V8 serializes it. -/
def serializedText : List UInt8 := [255, 15, 34, 20] ++ List.replicate 20 65

def deflatedText : List UInt8 := [251, 207, 175, 36, 226, 136, 5, 0, 0]

def sampleSha256Hex (bytes : List UInt8) : Text :=
  if bytes = serializedText then ascii "96d7db70754e3740e6b88c1165915db544d1ece29eccc2ef295bfd27fb83d84c"
  else List.replicate 64 48

def sampleDeflate (bytes : List UInt8) : List UInt8 := if bytes = serializedText then deflatedText else 1 :: bytes

def sampleInflate (stored : List UInt8) (maxOutputLength : Nat) : Option (List UInt8 × Nat) :=
  let bytes := if stored = deflatedText then serializedText else stored.tail
  if stored = [] ∨ maxOutputLength < bytes.length then none else some (bytes, stored.length)

theorem length_sampleSha256Hex (bytes : List UInt8) : (sampleSha256Hex bytes).length = 64 := by
  unfold sampleSha256Hex
  split
  · decide
  · exact List.length_replicate

theorem isHex_sampleSha256Hex (bytes : List UInt8) : ∀ unit ∈ sampleSha256Hex bytes, isHexUnit unit = true := by
  refine List.all_eq_true.mp ?_
  unfold sampleSha256Hex
  split <;> decide

theorem sampleInflate_sampleDeflate (bytes : List UInt8) (maxOutputLength : Nat)
    (fits : bytes.length ≤ maxOutputLength) :
    sampleInflate (sampleDeflate bytes) maxOutputLength = some (bytes, (sampleDeflate bytes).length) := by
  unfold sampleInflate sampleDeflate
  dsimp only
  by_cases isText : bytes = serializedText
  · subst isText
    have nonempty : deflatedText ≠ [] := List.cons_ne_nil _ _
    rw [if_pos rfl, if_pos rfl, if_neg (not_or.mpr ⟨nonempty, Nat.not_lt.mpr fits⟩)]
  · have other : 1 :: bytes ≠ deflatedText := fun same => absurd (List.cons.inj same).1 (by decide)
    rw [if_neg isText, if_neg other, List.tail_cons,
      if_neg (not_or.mpr ⟨List.cons_ne_nil _ _, Nat.not_lt.mpr fits⟩)]

theorem sampleInflate_nil (maxOutputLength : Nat) : sampleInflate [] maxOutputLength = none := by
  unfold sampleInflate
  exact if_pos (.inl rfl)

/-- zlib and SHA-256 on the serialized text. Other bytes are stored behind one more, and their digest is zero. -/
def sampleRuntime : Runtime where
  sha256Hex := sampleSha256Hex
  length_sha256Hex := length_sampleSha256Hex
  isHex_sha256Hex := isHex_sampleSha256Hex
  deflateRawSync := sampleDeflate
  inflateRawSync := sampleInflate
  inflate_deflate := sampleInflate_sampleDeflate
  inflate_nil := sampleInflate_nil

/-- The V8 deserializer on short texts of one byte a character. -/
def deserializeText : List UInt8 → Option (List UInt8)
  | 255 :: 15 :: 34 :: length :: units => if units.length = length.toNat then some units else none
  | _ => none

/-! ## The codec -/

structure PayloadCodecExact (runtime : Runtime) : Prop where
  accepts : ∀ serialized remainingCompressionBytes,
    (∃ encoded, encodeBlockTransactionPayload runtime serialized remainingCompressionBytes = .ok encoded) ↔
      serialized.bytes ≠ [] ∧ 0 ≤ remainingCompressionBytes ∧
        remainingCompressionBytes ≤ MAX_BLOCK_COMPRESSION_INPUT_BYTES
  withinBudget : ∀ serialized remainingCompressionBytes encoded,
    encodeBlockTransactionPayload runtime serialized remainingCompressionBytes = .ok encoded →
      (encoded.compressionInputBytes : Int) ≤ remainingCompressionBytes
  /-- What the deserializer makes of the bytes, or the error of the codec when it throws. -/
  lossless : ∀ serialized remainingCompressionBytes encoded,
    encodeBlockTransactionPayload runtime serialized remainingCompressionBytes = .ok encoded →
      ∀ (Value : Type) (deserialize : List UInt8 → Option Value),
        decodeBlockTransactionPayload runtime deserialize encoded.payload =
          (deserialize serialized.bytes).elim (.error .failed) .ok
  canonical : ∀ text, isCanonicalBase64 text = true ↔ ∃ bytes, bytes ≠ [] ∧ Base64.encode bytes = text

/-- Every non-empty byte string is encoded within every budget, its payload decodes to it, and the base64 test
accepts exactly the encodings of non-empty byte strings. -/
theorem payloadCodec_exact (runtime : Runtime) : PayloadCodecExact runtime where
  accepts _ _ := encode_accepts
  withinBudget serialized remainingCompressionBytes encoded accepted := by
    obtain ⟨-, nonnegative, charged, -⟩ := encode_cases accepted
    omega
  lossless serialized remainingCompressionBytes encoded accepted Value deserialize := by
    rw [decodeBlockTransactionPayload, decodeBytes_encode accepted]
    dsimp only [bind, Except.bind]
    cases deserialize serialized.bytes <;> rfl
  canonical := isCanonicalBase64_iff

example : isCanonicalBase64 (ascii "QUI=") = true ∧ isCanonicalBase64 (ascii "QUJ=") = false := by decide

def sampleEncoded : EncodedPayload :=
  ⟨ascii "b1:d:24:96d7db70754e3740e6b88c1165915db544d1ece29eccc2ef295bfd27fb83d84c:+8+vJOKIBQAA", 24⟩

theorem serializedText_safe : isSafeInteger serializedText.length = true := by decide

theorem encode_serializedText :
    encodeBlockTransactionPayload sampleRuntime ⟨serializedText, serializedText_safe⟩ 1000 = .ok sampleEncoded := by
  have length : natUnits serializedText.length = ascii "24" := by
    simp [serializedText, natUnits, ascii]
  have guarded : isSafeInteger 1000 ∧ 0 ≤ (1000 : Int) ∧ (1000 : Int) ≤ MAX_BLOCK_COMPRESSION_INPUT_BYTES ∧
      serializedText.length ≠ 0 := by decide
  have within : serializedText.length ≤ MAX_COMPRESSED_TRANSACTION_BYTES ∧
      (serializedText.length : Int) ≤ 1000 := by decide
  have shorter : base64Length (sampleRuntime.deflateRawSync serializedText).length <
      base64Length serializedText.length := by decide
  unfold encodeBlockTransactionPayload
  simp only [bind_eq_ok, require_eq_ok]
  refine ⟨(), guarded, ?_⟩
  rw [if_pos within, if_pos shorter, length]
  decide +kernel

theorem payloadCodec_exact_sample :
    encodeBlockTransactionPayload sampleRuntime ⟨serializedText, serializedText_safe⟩ 1000 = .ok sampleEncoded ∧
      decodeBlockTransactionPayload sampleRuntime deserializeText sampleEncoded.payload =
        .ok (List.replicate 20 65) :=
  ⟨encode_serializedText,
    (payloadCodec_exact sampleRuntime).lossless _ _ _ encode_serializedText _ deserializeText⟩

end SolTokenListener.Guarantees.PayloadCodec
