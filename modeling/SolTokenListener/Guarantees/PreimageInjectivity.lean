import SolTokenListener.Lib.Utf16Text
import SolTokenListener.Source.IdentityPreimages

/-!
# Equal preimages, equal identities

Both framings say where a text ends, so equal preimages have equal lists of UTF-8 texts. A text is
determined by its bytes up to its lone surrogates, which all become U+FFFD; of well-formed texts nothing
is lost. The labels and counts of a decision tell its segments apart.
-/

namespace SolTokenListener.Guarantees.PreimageInjectivity

open Lib Lib.Framing
open Lib.JsonText (Text ascii byteLength isHigh isLow unitBytes)
open Source.IdentityPreimages

variable {text first second : Text} {unit : Nat}

/-! ## Texts and their bytes -/

/-- Units that are characters of their own. -/
def Plain (text : Text) : Prop := ∀ unit ∈ text, unit < 0xD800

instance (text : Text) : Decidable (Plain text) := inferInstanceAs (Decidable (∀ unit ∈ text, unit < 0xD800))

theorem not_isHigh (small : unit < 0xD800) : ¬ isHigh unit = true := by
  simp only [isHigh, decide_eq_true_eq]
  omega

theorem not_isLow (small : unit < 0xD800) : ¬ isLow unit = true := by
  simp only [isLow, decide_eq_true_eq]
  omega

theorem scalars_plain_cons (small : unit < 0xD800) (rest : Text) :
    scalars (unit :: rest) = Char.ofNat unit :: scalars rest := by
  have alone : scalar unit = Char.ofNat unit := by
    rw [scalar, if_neg]
    rintro (high | low)
    · exact not_isHigh small high
    · exact not_isLow small low
  cases rest with
  | nil => exact congrArg (fun character => [character]) alone
  | cons next rest => rw [scalars, if_neg fun pair => not_isHigh small pair.1, alone]

theorem scalars_append {text : Text} (plain : Plain text) (rest : Text) :
    scalars (text ++ rest) = text.map Char.ofNat ++ scalars rest := by
  induction text with
  | nil => rfl
  | cons unit text ih =>
    obtain ⟨first, others⟩ := List.forall_mem_cons.mp plain
    rw [List.cons_append, scalars_plain_cons first, ih others, List.map_cons, List.cons_append]

theorem scalars_plain (plain : Plain text) : scalars text = text.map Char.ofNat := by
  have whole := scalars_append plain []
  rwa [List.append_nil, scalars, List.append_nil] at whole

/-- Hashing as UTF-8 loses nothing of a plain text. -/
theorem toNat_scalars (plain : Plain text) : (scalars text).map Char.toNat = text := by
  rw [scalars_plain plain, List.map_map]
  exact (List.map_congr_left fun unit member =>
    Utf8Decoder.toNat_char_ofNat (.inl (plain unit member))).trans (List.map_id text)

theorem plain_inj (firstPlain : Plain first) (secondPlain : Plain second)
    (same : scalars first = scalars second) : first = second := by
  rw [← toNat_scalars firstPlain, ← toNat_scalars secondPlain, same]

theorem utf8_inj (same : utf8 first = utf8 second) : scalars first = scalars second := by
  have decoded := congrArg Utf8Decoder.decode same
  rwa [utf8, utf8, Utf8Decoder.decode_encode, Utf8Decoder.decode_encode, Option.some.injEq] at decoded

theorem plain_decimal (number : Nat) : Plain (decimal number) := by
  intro unit member
  have digit := DecimalUnits.isDigit_natUnits number unit member
  simp only [DecimalUnits.isDigit, decide_eq_true_eq] at digit
  omega

theorem decimal_injective : Function.Injective decimal := by
  intro first second same
  rw [← DecimalUnits.natOfUnits_natUnits first, ← DecimalUnits.natOfUnits_natUnits second]
  exact congrArg DecimalUnits.natOfUnits same

/-! ## The framings -/

/-- Four bytes hold every length below 2^32. -/
theorem delimits_uint32 : Delimits (· < 256 ^ 4) uint32 := by
  refine delimits_of_width 4 (fun length => ?_) fun first second firstFits secondFits same => ?_
  · rw [uint32, List.length_reverse, WireFormat.length_littleEndian]
  · have lengths := congrArg (fun bytes => WireFormat.ofLittleEndian bytes.reverse) same
    simpa only [uint32, List.reverse_reverse, WireFormat.ofLittleEndian_littleEndian firstFits,
      WireFormat.ofLittleEndian_littleEndian secondFits] using lengths

theorem colon_notMem_utf8 (digits : ∀ unit ∈ text, DecimalUnits.isDigit unit = true) :
    (58 : UInt8) ∉ utf8 text := by
  have plain : Plain text := by
    intro unit member
    have digit := digits unit member
    simp only [DecimalUnits.isDigit, decide_eq_true_eq] at digit
    omega
  rw [utf8, Utf8Decoder.encode, scalars_plain plain]
  intro member
  obtain ⟨character, isCharacter, isByte⟩ := List.mem_flatMap.mp member
  obtain ⟨unit, isUnit, rfl⟩ := List.mem_map.mp isCharacter
  have digit := digits unit isUnit
  simp only [DecimalUnits.isDigit, decide_eq_true_eq] at digit
  rw [String.utf8EncodeChar, Utf8Decoder.toNat_char_ofNat (.inl (by omega)), if_pos (by omega),
    List.mem_singleton] at isByte
  have values := congrArg UInt8.toNat isByte
  rw [Utf8Decoder.toNat_ofNat (by omega)] at values
  have colon : (58 : UInt8).toNat = 58 := rfl
  omega

/-- A decimal length ends at its colon. -/
theorem delimits_decimalHeader : Delimits (fun _ => True) decimalHeader := by
  have injective : Function.Injective fun length => utf8 (decimal length) := fun first second same =>
    decimal_injective (plain_inj (plain_decimal first) (plain_decimal second) (utf8_inj same))
  exact delimits_of_separator (fun length => colon_notMem_utf8 (DecimalUnits.isDigit_natUnits length)) injective

theorem map_scalars_of_utf8 {left right : List Text} (same : left.map utf8 = right.map utf8) :
    left.map scalars = right.map scalars := by
  have decoded := congrArg (List.map fun bytes => (Utf8Decoder.decode bytes).getD []) same
  simpa only [List.map_map, Function.comp_def, utf8, Utf8Decoder.decode_encode, Option.getD_some] using decoded

/-- Texts that fit their headers are determined by their frames, up to their lone surrogates. -/
theorem framedTexts_inj {domain : Nat → Prop} {header : Nat → List UInt8} (delimits : Delimits domain header)
    (nonempty : ∀ length, header length ≠ []) {left right : List Text}
    (leftFits : ∀ bytes ∈ left.map utf8, domain bytes.length)
    (rightFits : ∀ bytes ∈ right.map utf8, domain bytes.length)
    (same : left.flatMap (fun text => prefixed header (utf8 text)) =
      right.flatMap fun text => prefixed header (utf8 text)) :
    left.map scalars = right.map scalars := by
  have frames : (left.map utf8).flatMap (prefixed header) = (right.map utf8).flatMap (prefixed header) := by
    simpa only [List.flatMap_map] using same
  refine map_scalars_of_utf8 ((delimits_prefixed delimits).flatMap_inj (fun bytes => ?_) leftFits rightFits frames)
  exact List.append_ne_nil_of_left_ne_nil (nonempty _) _

/-! ## Execution intents -/

theorem unitBytes_pos (unit : Nat) : 1 ≤ unitBytes unit := by
  unfold unitBytes
  split
  · exact le_rfl
  · split <;> decide

theorem length_scalars_le (text : Text) : (scalars text).length ≤ byteLength text := by
  induction text using scalars.induct with
  | case1 => exact le_rfl
  | case2 unit => exact unitBytes_pos unit
  | case3 unit next rest pair ih =>
    rw [scalars, if_pos pair, byteLength, if_pos pair, List.length_cons]
    omega
  | case4 unit next rest notPair ih =>
    have := unitBytes_pos unit
    rw [scalars, if_neg notPair, byteLength, if_neg notPair, List.length_cons]
    omega

theorem length_encode_le (chars : List Char) : (Utf8Decoder.encode chars).length ≤ 4 * chars.length := by
  induction chars with
  | nil => exact le_rfl
  | cons character rest ih =>
    have size := Char.utf8Size_le_four character
    rw [Utf8Decoder.encode, List.flatMap_cons, List.length_append, String.length_utf8EncodeChar, List.length_cons]
    change _ + (Utf8Decoder.encode rest).length ≤ _
    omega

theorem fits_of_byteLength (short : byteLength text ≤ 256) : (utf8 text).length < 256 ^ 4 := by
  have characters := length_scalars_le text
  have bytes := length_encode_le (scalars text)
  rw [utf8]
  omega

theorem fits_decimal {number : Nat} (small : number ≤ INT32_MAX) : (utf8 (decimal number)).length < 256 ^ 4 := by
  have bytes := length_encode_le (scalars (decimal number))
  have digits : (decimal number).length ≤ 10 := by
    unfold decimal DecimalUnits.natUnits
    split
    · decide
    · rw [List.length_map, List.length_reverse, Nat.digits_length_le_iff (by decide)]
      exact lt_of_le_of_lt small (by decide)
  rw [scalars_plain (plain_decimal number), List.length_map] at bytes
  rw [utf8, scalars_plain (plain_decimal number)]
  omega

/-- The limits of an accepted identity keep every text within its four-byte length. -/
theorem identityTexts_fit {identity : ExecutionIntentIdentity Text} (accepted : isIdentity identity = true) :
    ∀ bytes ∈ (identityTexts identity).map utf8, bytes.length < 256 ^ 4 := by
  simp only [isIdentity, isText, decide_eq_true_eq, Bool.decide_and, Bool.and_eq_true] at accepted
  obtain ⟨⟨-, strategy⟩, ⟨-, version⟩, ⟨-, position⟩, -, command⟩ := accepted
  intro bytes member
  simp only [identityTexts, List.map_cons, List.map_nil, List.mem_cons, List.not_mem_nil, or_false] at member
  rcases member with rfl | rfl | rfl | rfl | rfl | rfl
  · decide
  · exact fits_of_byteLength strategy
  · exact fits_decimal version
  · exact fits_of_byteLength position
  · cases identity.side <;> decide
  · exact fits_of_byteLength command

theorem plain_sideText (side : ExecutionIntentSide) : Plain (sideText side) := by
  cases side <;> decide

theorem sideText_injective : Function.Injective sideText := by
  intro first second same
  cases first <;> cases second <;> first | rfl | exact absurd same (by decide)

theorem decimal_of_scalars {first second : Nat} (same : scalars (decimal first) = scalars (decimal second)) :
    first = second :=
  decimal_injective (plain_inj (plain_decimal first) (plain_decimal second) same)

/-- Equal preimages are those of identities that differ in their lone surrogates only. -/
theorem identityPreimage_eq_iff {first second : ExecutionIntentIdentity Text} (firstAccepted : isIdentity first = true)
    (secondAccepted : isIdentity second = true) :
    lengthPrefixedUtf8 (identityTexts first) = lengthPrefixedUtf8 (identityTexts second) ↔
      first.map scalars = second.map scalars := by
  constructor
  · intro same
    have nonempty : ∀ length, uint32 length ≠ [] := fun length => by simp [uint32, WireFormat.littleEndian]
    have texts := framedTexts_inj delimits_uint32 nonempty (identityTexts_fit firstAccepted)
      (identityTexts_fit secondAccepted) same
    simp only [identityTexts, List.map_cons, List.map_nil, List.cons.injEq, and_true, true_and] at texts
    obtain ⟨strategy, version, position, side, command⟩ := texts
    simp only [ExecutionIntentIdentity.map, strategy, decimal_of_scalars version, position, command,
      sideText_injective (plain_inj (plain_sideText _) (plain_sideText _) side)]
  · intro same
    have fields := ExecutionIntentIdentity.mk.inj same
    obtain ⟨strategy, version, position, side, command⟩ := fields
    simp only [lengthPrefixedUtf8, identityTexts, List.flatMap_cons, List.flatMap_nil, utf8, strategy, position,
      command, version, side]

/-! ## Catch-up decisions -/

theorem plain_dispositionText (disposition : CatchUpClassificationDisposition) : Plain (dispositionText disposition) := by
  cases disposition <;> decide

theorem dispositionText_injective : Function.Injective dispositionText := by
  intro first second same
  cases first <;> cases second <;> first | rfl | exact absurd same (by decide)

theorem plain_reasonText (reason : CatchUpClassificationReasonCode) : Plain (reasonText reason) := by
  cases reason <;> decide

theorem reasonText_injective : Function.Injective reasonText := by
  intro first second same
  cases first <;> cases second <;> first | rfl | exact absurd same (by decide)

/-- The text of an optional hint. -/
def hintSegment (hint : Option TransactionNotificationIngestionHint) : Text := (hint.map hintText).getD NONE

theorem plain_hintSegment (hint : Option TransactionNotificationIngestionHint) : Plain (hintSegment hint) := by
  rcases hint with - | hint
  · decide
  · cases hint <;> decide

theorem hintSegment_injective : Function.Injective hintSegment := by
  intro first second same
  rcases first with - | first <;> rcases second with - | second
  · rfl
  · cases second <;> exact absurd same (by decide)
  · cases first <;> exact absurd same (by decide)
  · cases first <;> cases second <;> first | rfl | exact absurd same (by decide)

theorem plain_familyText (family : PumpInstructionFamily) : Plain (familyText family) ∧ 58 ∉ familyText family := by
  cases family <;> decide

theorem familyText_injective : Function.Injective familyText := by
  intro first second same
  cases first <;> cases second <;> first | rfl | exact absurd same (by decide)

theorem colon_notMem_decimal (number : Nat) : 58 ∉ decimal number := by
  intro member
  have digit := DecimalUnits.isDigit_natUnits number 58 member
  revert digit
  decide

def innerText (index : Option Nat) : Text := (index.map decimal).getD NONE

theorem plain_innerText (index : Option Nat) : Plain (innerText index) ∧ 58 ∉ innerText index := by
  cases index with
  | none => decide
  | some number => exact ⟨plain_decimal number, colon_notMem_decimal number⟩

/-- A number does not read as the absent index: its text has digits only. -/
theorem decimal_ne_none (number : Nat) : decimal number ≠ NONE := by
  intro same
  have digit := DecimalUnits.isDigit_natUnits number 78 (by
    change 78 ∈ decimal number
    rw [same]
    decide)
  revert digit
  decide

theorem innerText_injective : Function.Injective innerText := by
  intro first second same
  cases first with
  | none =>
    cases second with
    | none => rfl
    | some number => exact absurd same.symm (decimal_ne_none number)
  | some number =>
    cases second with
    | none => exact absurd same (decimal_ne_none number)
    | some other => exact congrArg some (decimal_injective same)

theorem labelled_inj {label : Text} (plain : Plain label)
    (same : scalars (label ++ first) = scalars (label ++ second)) :
    scalars first = scalars second := by
  rw [scalars_append plain, scalars_append plain] at same
  exact List.append_cancel_left same

/-- A segment ends at its first colon. -/
theorem separated_inj {rest others : Text} (firstPlain : Plain first ∧ 58 ∉ first)
    (secondPlain : Plain second ∧ 58 ∉ second)
    (same : scalars (first ++ ascii ":" ++ rest) = scalars (second ++ ascii ":" ++ others)) :
    first = second ∧ scalars rest = scalars others := by
  have free : ∀ text : Text, Plain text ∧ 58 ∉ text → ':' ∉ scalars text := by
    rintro text ⟨plain, absent⟩ member
    apply absent
    rw [← toNat_scalars plain]
    exact List.mem_map.mpr ⟨':', member, rfl⟩
  have parts : ∀ text rest : Text, Plain text → scalars (text ++ ascii ":" ++ rest) =
      scalars text ++ ':' :: scalars rest := by
    intro text rest plain
    rw [List.append_assoc, scalars_append plain, @scalars_append (ascii ":") (by decide), scalars_plain plain]
    rfl
  rw [parts first rest firstPlain.1, parts second others secondPlain.1] at same
  obtain ⟨sameText, sameRest⟩ := append_cons_inj (free first firstPlain) (free second secondPlain) same
  exact ⟨plain_inj firstPlain.1 secondPlain.1 sameText, sameRest⟩

theorem actionSegment_inj {first second : SemanticAction Text}
    (same : scalars (actionSegment first) = scalars (actionSegment second)) :
    first.map scalars = second.map scalars := by
  have fields := labelled_inj (by decide) same
  obtain ⟨index, fields⟩ := separated_inj ⟨plain_decimal _, colon_notMem_decimal _⟩
    ⟨plain_decimal _, colon_notMem_decimal _⟩ fields
  obtain ⟨inner, fields⟩ := separated_inj (plain_innerText _) (plain_innerText _) fields
  obtain ⟨family, mint⟩ := separated_inj (plain_familyText _) (plain_familyText _) fields
  simp only [SemanticAction.map, decimal_injective index, innerText_injective inner, familyText_injective family, mint]

theorem map_eq_of_map_eq {α β γ : Type} {f : α → β} {g : α → γ} (determines : ∀ {x y}, f x = f y → g x = g y)
    {left right : List α} (same : left.map f = right.map f) : left.map g = right.map g := by
  induction left generalizing right with
  | nil =>
    cases right with
    | nil => rfl
    | cons _ _ => cases same
  | cons first rest ih =>
    cases right with
    | nil => cases same
    | cons second others =>
      obtain ⟨sameFirst, sameRest⟩ := List.cons.inj same
      rw [List.map_cons, List.map_cons, determines sameFirst, ih sameRest]

/-- The decisions agree in everything but an absent hint mint that reads as the text `NONE`. -/
structure SameDecision {Content : Type} (none : Content) (first second : ClassificationDecision Content) : Prop where
  signature : first.signature = second.signature
  slot : first.slot = second.slot
  disposition : first.disposition = second.disposition
  reasonCode : first.reasonCode = second.reasonCode
  ingestionHint : first.ingestionHint = second.ingestionHint
  ingestionHintMint : first.ingestionHintMint.getD none = second.ingestionHintMint.getD none
  mints : first.mints = second.mints
  actions : first.actions = second.actions
  marker : first.marker = second.marker

/-- The counts in the preimage tell where the mints and the actions end. -/
theorem evidencePreimage_inj {first second : ClassificationDecision Text}
    (same : evidencePreimage first = evidencePreimage second) :
    SameDecision "NONE".toList (first.map scalars) (second.map scalars) := by
  have nonempty : ∀ length, decimalHeader length ≠ [] := fun length =>
    List.append_ne_nil_of_right_ne_nil _ (by decide)
  have segments := framedTexts_inj delimits_decimalHeader nonempty (fun _ _ => trivial) (fun _ _ => trivial) same
  simp only [evidenceSegments, List.map_append, List.map_cons, List.map_nil, List.cons_append, List.nil_append,
    List.cons.injEq, true_and] at segments
  obtain ⟨signature, slot, disposition, reason, hint, hintMint, mintCount, segments⟩ := segments
  have mintCounts := decimal_of_scalars (labelled_inj (by decide) mintCount)
  obtain ⟨mints, segments⟩ := List.append_inj segments (by simp [mintCounts])
  obtain ⟨actionCount, segments⟩ := List.cons.inj segments
  have actionCounts := decimal_of_scalars (labelled_inj (by decide) actionCount)
  obtain ⟨actions, outcome⟩ := List.append_inj segments (by simp [actionCounts])
  have absent : scalars NONE = "NONE".toList := by decide
  constructor
  · exact labelled_inj (by decide) signature
  · exact decimal_of_scalars (labelled_inj (by decide) slot)
  · exact dispositionText_injective (plain_inj (plain_dispositionText _) (plain_dispositionText _)
      (labelled_inj (by decide) disposition))
  · exact reasonText_injective (plain_inj (plain_reasonText _) (plain_reasonText _) (labelled_inj (by decide) reason))
  · exact hintSegment_injective (plain_inj (plain_hintSegment _) (plain_hintSegment _) (labelled_inj (by decide) hint))
  · have rendered := labelled_inj (by decide) hintMint
    change (first.ingestionHintMint.map scalars).getD _ = (second.ingestionHintMint.map scalars).getD _
    rw [← absent, Option.getD_map, Option.getD_map]
    exact rendered
  · rw [List.map_map, List.map_map] at mints
    exact map_eq_of_map_eq (labelled_inj (by decide)) mints
  · rw [List.map_map, List.map_map] at actions
    exact map_eq_of_map_eq actionSegment_inj actions
  · exact labelled_inj (by decide) (List.cons.inj outcome).1

/-! ## Well-formed texts -/

theorem scalars_charUnits (c : Char) (rest : Text) :
    scalars (Utf16Text.charUnits c ++ rest) = c :: scalars rest := by
  have valid := Utf16Text.toNat_valid c
  have itself : Char.ofNat c.toNat = c := Char.ofNat_toNat c
  unfold Utf16Text.charUnits
  split
  · next single =>
      have notHigh : ¬ isHigh c.toNat = true := by
        simp only [isHigh, decide_eq_true_eq]
        omega
      have notLow : ¬ isLow c.toNat = true := by
        simp only [isLow, decide_eq_true_eq]
        omega
      have alone : scalar c.toNat = c := by
        rw [scalar, if_neg (not_or.mpr ⟨notHigh, notLow⟩), itself]
      rw [List.singleton_append]
      cases rest with
      | nil => exact congrArg (fun character => [character]) alone
      | cons next rest => rw [scalars, if_neg fun pair => notHigh pair.1, alone]
  · next wide =>
      have pair : isHigh (0xD800 + (c.toNat - 0x10000) / 0x400) = true ∧
          isLow (0xDC00 + (c.toNat - 0x10000) % 0x400) = true := by
        simp only [isHigh, isLow, decide_eq_true_eq]
        omega
      have value : 0x10000 + (0xD800 + (c.toNat - 0x10000) / 0x400 - 0xD800) * 0x400 +
          (0xDC00 + (c.toNat - 0x10000) % 0x400 - 0xDC00) = c.toNat := by omega
      rw [List.cons_append, List.singleton_append, scalars, if_pos pair, value, itself]

theorem scalars_units (text : String) : scalars (Utf16Text.units text) = text.toList := by
  unfold Utf16Text.units
  induction text.toList with
  | nil => rfl
  | cons c rest ih => rw [List.flatMap_cons, scalars_charUnits, ih]

/-- A well-formed text is its sequence of scalars. -/
theorem content_injective : Function.Injective (scalars ∘ Utf16Text.units) := by
  intro first second same
  rw [Function.comp_apply, Function.comp_apply, scalars_units, scalars_units] at same
  exact String.toList_inj.mp same

theorem SemanticAction.map_injective {A B : Type} {f : A → B} (injective : Function.Injective f) :
    Function.Injective (SemanticAction.map f) := by
  rintro ⟨family, mint, index, inner⟩ ⟨_, other, _, _⟩ same
  obtain ⟨rfl, sameMint, rfl, rfl⟩ := SemanticAction.mk.inj same
  have sameContent : mint = other := injective sameMint
  rw [sameContent]

/-! ## Ids -/

/-- With a hash that has no collisions, accepted identities have one id when they differ in their lone
surrogates only. -/
theorem executionIntentId_eq_iff {sha256 : List UInt8 → String} (noCollision : Function.Injective sha256)
    {first second : ExecutionIntentIdentity Text} (firstAccepted : isIdentity first = true)
    (secondAccepted : isIdentity second = true) :
    createExecutionIntentId sha256 first = createExecutionIntentId sha256 second ↔
      first.map scalars = second.map scalars := by
  rw [← identityPreimage_eq_iff firstAccepted secondAccepted, createExecutionIntentId, if_pos firstAccepted,
    createExecutionIntentId, if_pos secondAccepted, Option.some.injEq, String.append_right_inj]
  exact noCollision.eq_iff

/-- Equal preimages, and so equal ids under a hash without collisions, are those of fields that are
equal once each lone surrogate is read as U+FFFD; well-formed texts are equal as they are. -/
theorem preimages_determine_fields :
    (∀ first second : ExecutionIntentIdentity Text, isIdentity first = true → isIdentity second = true →
      (lengthPrefixedUtf8 (identityTexts first) = lengthPrefixedUtf8 (identityTexts second) ↔
        first.map scalars = second.map scalars)) ∧
    (∀ first second : ExecutionIntentIdentity String, isIdentity (first.map Utf16Text.units) = true →
      isIdentity (second.map Utf16Text.units) = true →
      lengthPrefixedUtf8 (identityTexts (first.map Utf16Text.units)) =
        lengthPrefixedUtf8 (identityTexts (second.map Utf16Text.units)) → first = second) ∧
    (∀ first second : ClassificationDecision Text, evidencePreimage first = evidencePreimage second →
      SameDecision "NONE".toList (first.map scalars) (second.map scalars)) ∧
    (∀ first second : ClassificationDecision String,
      evidencePreimage (first.map Utf16Text.units) = evidencePreimage (second.map Utf16Text.units) →
      SameDecision "NONE" first second) ∧
    ∀ sha256, Function.Injective sha256 →
      (∀ first second : ExecutionIntentIdentity Text, isIdentity first = true → isIdentity second = true →
        (createExecutionIntentId sha256 first = createExecutionIntentId sha256 second ↔
          first.map scalars = second.map scalars)) ∧
      ∀ first second : ClassificationDecision Text,
        evidenceFingerprint sha256 first = evidenceFingerprint sha256 second →
        SameDecision "NONE".toList (first.map scalars) (second.map scalars) := by
  refine ⟨fun _ _ => identityPreimage_eq_iff, ?_, fun _ _ => evidencePreimage_inj, ?_, fun _ noCollision =>
    ⟨fun _ _ => executionIntentId_eq_iff noCollision, fun _ _ same => evidencePreimage_inj (noCollision same)⟩⟩
  · intro first second firstAccepted secondAccepted same
    have fields := ExecutionIntentIdentity.mk.inj ((identityPreimage_eq_iff firstAccepted secondAccepted).mp same)
    simp only [ExecutionIntentIdentity.map, scalars_units, String.toList_inj] at fields
    obtain ⟨strategy, version, position, side, command⟩ := fields
    cases first
    cases second
    simp_all only
  · intro first second same
    have decision := evidencePreimage_inj same
    refine ⟨content_injective decision.signature, decision.slot, decision.disposition, decision.reasonCode,
      decision.ingestionHint, content_injective ?_, ?_, ?_, content_injective decision.marker⟩
    · have rendered := decision.ingestionHintMint
      simp only [ClassificationDecision.map, Option.map_map] at rendered
      rwa [← scalars_units "NONE", ← Function.comp_apply (f := scalars), Option.getD_map, Option.getD_map] at rendered
    · have mints := decision.mints
      simp only [ClassificationDecision.map, List.map_map] at mints
      exact List.map_injective_iff.mpr content_injective mints
    · have actions := decision.actions
      simp only [ClassificationDecision.map, List.map_map] at actions
      exact List.map_injective_iff.mpr (SemanticAction.map_injective content_injective) actions

/-! ## Lone surrogates -/

def identityOf (strategyId : Text) : ExecutionIntentIdentity Text := ⟨strategyId, 1, [112], .BUY, [99]⟩

/-- Two accepted identities whose strategies are different lone surrogates have one preimage. -/
theorem lone_surrogates_collide : isIdentity (identityOf [0xD800]) = true ∧ isIdentity (identityOf [0xD801]) = true ∧
    identityOf [0xD800] ≠ identityOf [0xD801] ∧
    lengthPrefixedUtf8 (identityTexts (identityOf [0xD800])) =
      lengthPrefixedUtf8 (identityTexts (identityOf [0xD801])) := by
  decide

/-- A hash without collisions: the bytes themselves, each as a character. -/
def bytesAsText (bytes : List UInt8) : String := String.ofList (bytes.map fun byte => Char.ofNat byte.toNat)

theorem bytesAsText_injective : Function.Injective bytesAsText := by
  intro first second same
  refine List.map_injective_iff.mpr (fun byte other sameChar => ?_) (String.ofList_injective same)
  have values := congrArg (·.val.toNat) sameChar
  rw [Utf8Decoder.toNat_char_ofNat (.inl (byte.toNat_lt.trans (by decide))),
    Utf8Decoder.toNat_char_ofNat (.inl (other.toNat_lt.trans (by decide)))] at values
  exact UInt8.toNat_inj.mp values

theorem preimages_determine_fields_sample :
    lengthPrefixedUtf8 (identityTexts (identityOf [0xD800])) =
        lengthPrefixedUtf8 (identityTexts (identityOf [0xD801])) ∧
      lengthPrefixedUtf8 (identityTexts (identityOf [97])) ≠ lengthPrefixedUtf8 (identityTexts (identityOf [98])) ∧
      createExecutionIntentId bytesAsText (identityOf [0xD800]) =
        createExecutionIntentId bytesAsText (identityOf [0xD801]) := by
  obtain ⟨preimages, -, -, -, ids⟩ := preimages_determine_fields
  have replaced : (identityOf [0xD800]).map scalars = (identityOf [0xD801]).map scalars := by decide
  refine ⟨(preimages _ _ (by decide) (by decide)).mpr replaced, fun same => ?_,
    ((ids bytesAsText bytesAsText_injective).1 _ _ (by decide) (by decide)).mpr replaced⟩
  exact absurd ((preimages _ _ (by decide) (by decide)).mp same) (by decide)

end SolTokenListener.Guarantees.PreimageInjectivity
