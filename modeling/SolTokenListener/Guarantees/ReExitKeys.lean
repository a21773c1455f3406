import SolTokenListener.Source.FastExit

/-!
# Keys of re-exits

The database selects the keys that admit a re-exit with one pattern, the engine parses them with
another. Both say the same: a known exit of one position, retried fewer times than the cap. From a
fresh exit key the engine makes as many re-exits as the cap allows.
-/

namespace SolTokenListener.Guarantees.ReExitKeys

open Lib.Checked Lib.TextPattern Lib.Utf16Text
open Source.FastExit

/-! ## The shape of a key -/

structure IsPositionId (word : List Char) : Prop where
  shape : ∃ hex, word = "execution_live_position_".toList ++ hex ∧ hex.length = 64 ∧
    ∀ c ∈ hex, isHexDigit c = true

/-- The reason a key names: nothing for the deadline. -/
abbrev Label := Option (List Char)

def labelText : Label → List Char
  | none => "maximum-holding".toList
  | some name => "fast-exit:".toList ++ name

def rootOf (label : Label) (position : List Char) : List Char :=
  labelText label ++ ":".toList ++ position

def suffixOf : Option (List Char) → List Char
  | none => []
  | some digits => ":retry-".toList ++ digits

structure IsLabel (label : Label) : Prop where
  named : ∀ name, label = some name → (∀ c ∈ name, isReasonChar c = true) ∧ 1 ≤ name.length

/-- `[1-9][0-9]*`. -/
structure IsRetry (retry : Option (List Char)) : Prop where
  digits : ∀ digits, retry = some digits → ∃ first rest, digits = first :: rest ∧
    ('1' ≤ first ∧ first ≤ '9') ∧ ∀ c ∈ rest, c.isDigit = true

def capturesOf (label : Label) (position : List Char) (retry : Option (List Char)) : Captures Char :=
  ("root", rootOf label position) :: (label.toList.map fun name => ("reason", name)) ++
    retry.toList.map fun digits => ("retry", digits)

section Patterns

variable {word : List Char} {captures : Captures Char}

theorem denotes_text {value : String} :
    Denotes (text value) word captures ↔ word = value.toList ∧ captures = [] := Iff.rfl

theorem denotes_positionId : Denotes POSITION_ID word captures ↔ IsPositionId word ∧ captures = [] := by
  constructor
  · rintro ⟨_, hex, _, _, rfl, rfl, ⟨rfl, rfl⟩, rfl, isHex, least, most⟩
    exact ⟨⟨hex, rfl, Nat.le_antisymm (most 64 rfl) least, isHex⟩, rfl⟩
  · rintro ⟨⟨hex, rfl, length, isHex⟩, rfl⟩
    refine ⟨_, hex, [], [], rfl, rfl, ⟨rfl, rfl⟩, rfl, isHex, length.ge, ?_⟩
    rintro bound ⟨⟩
    exact length.le

/-- A single character of a class. -/
theorem denotes_one {accepts : Char → Bool} :
    Denotes (.repeated accepts 1 (some 1)) word captures ↔
      ∃ c, word = [c] ∧ accepts c = true ∧ captures = [] := by
  constructor
  · rintro ⟨rfl, accepted, least, most⟩
    obtain ⟨c, rfl⟩ := List.length_eq_one_iff.mp (Nat.le_antisymm (most 1 rfl) least)
    exact ⟨c, rfl, accepted c List.mem_cons_self, rfl⟩
  · rintro ⟨c, rfl, accepted, rfl⟩
    refine ⟨rfl, by simpa using accepted, Nat.le_refl 1, ?_⟩
    rintro bound ⟨⟩
    exact Nat.le_refl 1

theorem denotes_logicalKey : Denotes LOGICAL_KEY_PATTERN word captures ↔
    ∃ label position retry, IsLabel label ∧ IsPositionId position ∧ IsRetry retry ∧
      word = rootOf label position ++ suffixOf retry ∧ captures = capturesOf label position retry := by
  constructor
  · rintro ⟨root, tail, rootCaptures, tailCaptures, rfl, rfl, ⟨inner, rfl, rootShape⟩, tailShape⟩
    obtain ⟨head, position, headCaptures, _, rfl, rfl, headShape, denotesId⟩ := rootShape
    obtain ⟨isPosition, rfl⟩ := denotes_positionId.mp denotesId
    obtain ⟨labelled, _, labelCaptures, _, rfl, rfl, labelShape, rfl, rfl⟩ := headShape
    have isLabel : ∃ label, IsLabel label ∧ labelled = labelText label ∧
        labelCaptures = label.toList.map fun name => ("reason", name) := by
      rcases labelShape with ⟨rfl, rfl⟩ |
        ⟨_, name, _, _, rfl, rfl, ⟨rfl, rfl⟩, _, rfl, rfl, accepted, least, -⟩
      · exact ⟨none, ⟨nofun⟩, rfl, rfl⟩
      · refine ⟨some name, ⟨?_⟩, rfl, rfl⟩
        rintro _ ⟨⟩
        exact ⟨accepted, least⟩
    have isRetry : ∃ retry, IsRetry retry ∧ tail = suffixOf retry ∧
        tailCaptures = retry.toList.map fun digits => ("retry", digits) := by
      rcases tailShape with
        ⟨_, digits, _, _, rfl, rfl, ⟨rfl, rfl⟩, _, rfl, _, rest, _, _, rfl, rfl, one, rfl, isDigits, -⟩ |
        ⟨rfl, rfl⟩
      · obtain ⟨first, rfl, accepted, rfl⟩ := denotes_one.mp one
        refine ⟨some (first :: rest), ⟨?_⟩, rfl, rfl⟩
        rintro _ ⟨⟩
        exact ⟨first, rest, rfl, by simpa using accepted, isDigits⟩
      · exact ⟨none, ⟨nofun⟩, rfl, rfl⟩
    obtain ⟨label, isLabel, rfl, rfl⟩ := isLabel
    obtain ⟨retry, isRetry, rfl, rfl⟩ := isRetry
    refine ⟨label, position, retry, isLabel, isPosition, isRetry, rfl, ?_⟩
    simp [capturesOf, rootOf]
  · rintro ⟨label, position, retry, isLabel, isPosition, isRetry, rfl, rfl⟩
    refine ⟨rootOf label position, suffixOf retry,
      ("root", rootOf label position) :: label.toList.map fun name => ("reason", name),
      retry.toList.map fun digits => ("retry", digits), rfl, rfl, ⟨_, rfl, ?_⟩, ?_⟩
    · refine ⟨labelText label ++ ":".toList, position, label.toList.map fun name => ("reason", name), [],
        rfl, (List.append_nil _).symm, ?_, denotes_positionId.mpr ⟨isPosition, rfl⟩⟩
      refine ⟨labelText label, ":".toList, label.toList.map fun name => ("reason", name), [], rfl,
        (List.append_nil _).symm, ?_, rfl, rfl⟩
      cases label with
      | none => exact .inl ⟨rfl, rfl⟩
      | some name =>
        obtain ⟨accepted, least⟩ := isLabel.named name rfl
        exact .inr ⟨"fast-exit:".toList, name, [], [("reason", name)], rfl, rfl, ⟨rfl, rfl⟩, [], rfl,
          rfl, accepted, least, nofun⟩
    · cases retry with
      | none => exact .inr ⟨rfl, rfl⟩
      | some digits =>
        obtain ⟨first, rest, rfl, accepted, isDigits⟩ := isRetry.digits digits rfl
        refine .inl ⟨":retry-".toList, first :: rest, [], [("retry", first :: rest)], rfl, rfl,
          ⟨rfl, rfl⟩, [], rfl, [first], rest, [], [], rfl, rfl, ?_, rfl, isDigits, Nat.zero_le _, nofun⟩
        exact denotes_one.mpr ⟨first, rfl, by simpa using accepted, rfl⟩

/-- One of the listed texts. -/
theorem denotes_anyOf {values : List String} :
    Denotes (anyOf values) word captures ↔ (∃ value ∈ values, word = value.toList) ∧ captures = [] := by
  induction values with
  | nil =>
    refine iff_of_false ?_ (by simp)
    rintro ⟨-, none, least, -⟩
    cases word with
    | nil => cases least
    | cons c rest => cases none c List.mem_cons_self
  | cons value rest ih =>
    cases rest with
    | nil => simp [anyOf, denotes_text]
    | cons next others =>
      have step : Denotes (anyOf (value :: next :: others)) word captures ↔
          Denotes (text value) word captures ∨ Denotes (anyOf (next :: others)) word captures :=
        Iff.rfl
      rw [step, ih, denotes_text, ← or_and_right]
      simp only [List.exists_mem_cons_iff]

def IsKnown (label : Label) : Prop :=
  ∀ name, label = some name → ∃ reason ∈ FAST_EXIT_REASONS, name = reason.text.toList

/-- The suffix of a key below the cap. -/
def IsBelowCap (retry : Option (List Char)) : Prop :=
  ∀ digits, retry = some digits → digits = ['1'] ∨ digits = ['2']

theorem oneOrTwo_iff {c : Char} :
    ('1'.toNat ≤ c.toNat ∧ c.toNat ≤ '0'.toNat + (MAXIMUM_RE_EXITS - 1)) ↔ c = '1' ∨ c = '2' := by
  have codes : c = '1' ∨ c = '2' ↔ c.toNat = 49 ∨ c.toNat = 50 := by
    rw [← Char.toNat_inj, ← Char.toNat_inj]
    rfl
  rw [codes]
  change 49 ≤ c.toNat ∧ c.toNat ≤ 48 + 2 ↔ _
  omega

theorem denotes_eligible : (∃ captures, Denotes REEXIT_ELIGIBLE_LOGICAL_KEY_SQL_PATTERN word captures) ↔
    ∃ label position retry, IsKnown label ∧ IsPositionId position ∧ IsBelowCap retry ∧
      word = rootOf label position ++ suffixOf retry := by
  constructor
  · rintro ⟨_, root, tail, _, _, rfl, rfl, rootShape, tailShape⟩
    obtain ⟨head, position, _, _, rfl, rfl, headShape, denotesId⟩ := rootShape
    obtain ⟨isPosition, -⟩ := denotes_positionId.mp denotesId
    obtain ⟨labelled, _, _, _, rfl, rfl, labelShape, rfl, rfl⟩ := headShape
    have isKnown : ∃ label, IsKnown label ∧ labelled = labelText label := by
      rcases labelShape with ⟨rfl, rfl⟩ | ⟨_, name, _, _, rfl, rfl, ⟨rfl, rfl⟩, isName⟩
      · exact ⟨none, nofun, rfl⟩
      · obtain ⟨⟨value, member, rfl⟩, -⟩ := denotes_anyOf.mp isName
        obtain ⟨reason, isReason, rfl⟩ := List.mem_map.mp member
        refine ⟨some reason.text.toList, ?_, rfl⟩
        rintro _ ⟨⟩
        exact ⟨reason, isReason, rfl⟩
    have isBelowCap : ∃ retry, IsBelowCap retry ∧ tail = suffixOf retry := by
      rcases tailShape with ⟨_, digits, _, _, rfl, rfl, ⟨rfl, rfl⟩, one⟩ | ⟨rfl, rfl⟩
      · obtain ⟨c, rfl, accepted, -⟩ := denotes_one.mp one
        refine ⟨some [c], ?_, rfl⟩
        rintro _ ⟨⟩
        rcases oneOrTwo_iff.mp (of_decide_eq_true accepted) with rfl | rfl
        · exact .inl rfl
        · exact .inr rfl
      · exact ⟨none, nofun, rfl⟩
    obtain ⟨label, isKnown, rfl⟩ := isKnown
    obtain ⟨retry, isBelowCap, rfl⟩ := isBelowCap
    exact ⟨label, position, retry, isKnown, isPosition, isBelowCap, rfl⟩
  · rintro ⟨label, position, retry, isKnown, isPosition, isBelowCap, rfl⟩
    refine ⟨[], rootOf label position, suffixOf retry, [], [], rfl, rfl,
      ⟨labelText label ++ ":".toList, position, [], [], rfl, rfl,
        ⟨labelText label, ":".toList, [], [], rfl, rfl, ?_, rfl, rfl⟩,
        denotes_positionId.mpr ⟨isPosition, rfl⟩⟩, ?_⟩
    · cases label with
      | none => exact .inl ⟨rfl, rfl⟩
      | some name =>
        obtain ⟨reason, isReason, rfl⟩ := isKnown name rfl
        exact .inr ⟨"fast-exit:".toList, _, [], [], rfl, rfl, ⟨rfl, rfl⟩,
          denotes_anyOf.mpr ⟨⟨reason.text, List.mem_map_of_mem isReason, rfl⟩, rfl⟩⟩
    · cases retry with
      | none => exact .inr ⟨rfl, rfl⟩
      | some digits =>
        refine .inl ⟨":retry-".toList, digits, [], [], rfl, rfl, ⟨rfl, rfl⟩, denotes_one.mpr ?_⟩
        rcases isBelowCap digits rfl with rfl | rfl
        · exact ⟨'1', rfl, by decide, rfl⟩
        · exact ⟨'2', rfl, by decide, rfl⟩

end Patterns

/-! ## Reading a key -/

variable {position : List Char}

section Keys

variable {label other : Label} {otherPosition : List Char} {retry otherRetry : Option (List Char)}

theorem rootOf_append (label : Label) (position rest : List Char) :
    rootOf label position ++ rest = labelText label ++ ':' :: (position ++ rest) := by
  rw [rootOf, List.append_assoc, List.append_assoc]
  rfl

/-- What a key was made of can be read off it. -/
theorem key_unique (isLabel : IsLabel label) (isOther : IsLabel other) (isPosition : IsPositionId position)
    (isOtherPosition : IsPositionId otherPosition)
    (same : rootOf label position ++ suffixOf retry = rootOf other otherPosition ++ suffixOf otherRetry) :
    label = other ∧ position = otherPosition ∧ retry = otherRetry := by
  have labels : label = other ∧ position ++ suffixOf retry = otherPosition ++ suffixOf otherRetry := by
    rw [rootOf_append, rootOf_append] at same
    cases label with
    | none =>
      cases other with
      | none => exact ⟨rfl, (List.cons.inj (List.append_cancel_left same)).2⟩
      | some name => exact absurd (congrArg List.head? same) (show some 'm' ≠ some 'f' by decide)
    | some name =>
      cases other with
      | none => exact absurd (congrArg List.head? same) (show some 'f' ≠ some 'm' by decide)
      | some otherName =>
        have runs : "fast-exit:".toList ++ (name ++ ':' :: (position ++ suffixOf retry)) =
            "fast-exit:".toList ++ (otherName ++ ':' :: (otherPosition ++ suffixOf otherRetry)) := by
          rw [← List.append_assoc, ← List.append_assoc]
          exact same
        obtain ⟨names, rests⟩ := run_unique (by decide) (isLabel.named name rfl).1
          (isOther.named otherName rfl).1 (List.append_cancel_left runs)
        exact ⟨congrArg some names, rests⟩
  obtain ⟨hex, rfl, length, -⟩ := isPosition.shape
  obtain ⟨otherHex, rfl, otherLength, -⟩ := isOtherPosition.shape
  obtain ⟨sameLabel, rests⟩ := labels
  have lengths : ("execution_live_position_".toList ++ hex).length =
      ("execution_live_position_".toList ++ otherHex).length := by
    rw [List.length_append, List.length_append, length, otherLength]
  obtain ⟨positions, suffixes⟩ := List.append_inj rests lengths
  refine ⟨sameLabel, positions, ?_⟩
  cases retry with
  | none =>
    cases otherRetry with
    | none => rfl
    | some digits => exact absurd (congrArg List.head? suffixes) (show none ≠ some ':' by decide)
  | some digits =>
    cases otherRetry with
    | none => exact absurd (congrArg List.head? suffixes) (show some ':' ≠ none by decide)
    | some otherDigits => exact congrArg some (List.append_cancel_left suffixes)

theorem exec_key (isLabel : IsLabel label) (isPosition : IsPositionId position) (isRetry : IsRetry retry) :
    exec LOGICAL_KEY_PATTERN (rootOf label position ++ suffixOf retry) =
      some (capturesOf label position retry) := by
  refine exec_eq_some ?_ (denotes_logicalKey.mpr ⟨label, position, retry, isLabel, isPosition, isRetry,
    rfl, rfl⟩)
  intro captures denotes
  obtain ⟨other, otherPosition, otherRetry, isOther, isOtherPosition, -, same, rfl⟩ :=
    denotes_logicalKey.mp denotes
  obtain ⟨rfl, rfl, rfl⟩ := key_unique isLabel isOther isPosition isOtherPosition same
  rfl

theorem lookup_captures (label : Label) (position : List Char) (retry : Option (List Char)) :
    (capturesOf label position retry).lookup "root" = some (rootOf label position) ∧
    (capturesOf label position retry).lookup "reason" = label ∧
    (capturesOf label position retry).lookup "retry" = retry := by
  cases label <;> cases retry <;> exact ⟨rfl, rfl, rfl⟩

/-- A key below 256 units is parsed into its parts. -/
theorem parseLogicalKey_key (isLabel : IsLabel label) (isPosition : IsPositionId position)
    (isRetry : IsRetry retry)
    (short : (units (String.ofList (rootOf label position ++ suffixOf retry))).length ≤ 256) :
    parseLogicalKey (String.ofList (rootOf label position ++ suffixOf retry)) =
      if MAXIMUM_RE_EXITS < (retry.map digitsValue).getD 0 then none
      else (reasonOf label).map fun reason =>
        ⟨String.ofList (rootOf label position), reason, (retry.map digitsValue).getD 0⟩ := by
  obtain ⟨root, reason, retries⟩ := lookup_captures label position retry
  unfold parseLogicalKey
  rw [if_neg (Nat.not_lt.mpr short), String.toList_ofList, exec_key isLabel isPosition isRetry,
    Option.bind_eq_bind, Option.bind_some, root, Option.bind_eq_bind, Option.bind_some, retries, reason]
  dsimp only
  split
  · rfl
  · cases reasonOf label <;> rfl

end Keys

/-! ## Known reasons and small retries -/

section Known

variable {label : Label} {retry : Option (List Char)}

theorem reasonOf_text (reason : FastExitReason) :
    reasonOf (some reason.text.toList) = some (.early reason) := by
  cases reason <;> decide

theorem isKnown_of_reason {reason : ExitReason} (known : reasonOf label = some reason) :
    IsKnown label := by
  rintro name rfl
  obtain ⟨found, isFound, -⟩ := Option.map_eq_some_iff.mp known
  have named := List.find?_some isFound
  exact ⟨found, List.mem_of_find?_eq_some isFound, (of_decide_eq_true named).symm⟩

theorem IsKnown.reason (known : IsKnown label) : ∃ reason, reasonOf label = some reason := by
  cases label with
  | none => exact ⟨.deadline, rfl⟩
  | some name =>
    obtain ⟨reason, -, rfl⟩ := known name rfl
    exact ⟨.early reason, reasonOf_text reason⟩

/-- A test of every character, as a run of the list rather than of all characters. -/
theorem forall_mem_of_all {test : Char → Prop} [DecidablePred test] {text : List Char}
    (all : text.all (fun c => decide (test c)) = true) : ∀ c ∈ text, test c :=
  fun c member => of_decide_eq_true (List.all_eq_true.mp all c member)

theorem IsKnown.isLabel (known : IsKnown label) : IsLabel label := by
  constructor
  intro name isName
  obtain ⟨reason, -, rfl⟩ := known name isName
  cases reason <;> exact ⟨forall_mem_of_all (by decide), by decide⟩

theorem le_digitsFold (digits : List Char) : ∀ value : Nat,
    value ≤ digits.foldl (fun value digit => 10 * value + (digit.toNat - '0'.toNat)) value := by
  induction digits with
  | nil => exact fun value => Nat.le_refl value
  | cons digit rest ih =>
    intro value
    have step := ih (10 * value + (digit.toNat - '0'.toNat))
    rw [List.foldl_cons]
    omega

/-- A suffix without leading zero below ten is one digit. -/
theorem IsRetry.single {digits : List Char} (isRetry : IsRetry (some digits))
    (small : digitsValue digits ≤ MAXIMUM_RE_EXITS) :
    digits = ['1'] ∨ digits = ['2'] ∨ digits = ['3'] := by
  obtain ⟨first, rest, rfl, ⟨low, high⟩, isDigits⟩ := isRetry.digits digits rfl
  have low : 49 ≤ first.toNat := low
  cases rest with
  | nil =>
    have value : digitsValue [first] = first.toNat - 48 := by
      simp only [digitsValue, List.foldl_cons, List.foldl_nil]
      change 10 * 0 + (first.toNat - 48) = _
      omega
    have small : first.toNat - 48 ≤ 3 := value ▸ small
    have codes : first.toNat = '1'.toNat ∨ first.toNat = '2'.toNat ∨ first.toNat = '3'.toNat := by
      change first.toNat = 49 ∨ first.toNat = 50 ∨ first.toNat = 51
      omega
    simpa only [Char.toNat_inj, List.cons.injEq, and_true] using codes
  | cons second others =>
    have grows := le_digitsFold others (10 * (10 * 0 + (first.toNat - '0'.toNat)) +
      (second.toNat - '0'.toNat))
    have zero : '0'.toNat = 48 := rfl
    have small : digitsValue (first :: second :: others) ≤ 3 := small
    simp only [digitsValue, List.foldl_cons] at small
    omega

/-- Keys of a known reason with at most one digit of retries are short. -/
theorem IsKnown.short (known : IsKnown label) (isPosition : IsPositionId position)
    (single : ∀ digits, retry = some digits → digits = ['1'] ∨ digits = ['2'] ∨ digits = ['3']) :
    (units (String.ofList (rootOf label position ++ suffixOf retry))).length ≤ 256 := by
  have labels : (∀ c ∈ labelText label, c.toNat < 0x10000) ∧ (labelText label).length ≤ 26 := by
    cases label with
    | none => exact ⟨forall_mem_of_all (by decide), by decide⟩
    | some name =>
      obtain ⟨reason, -, rfl⟩ := known name rfl
      cases reason <;> exact ⟨forall_mem_of_all (by decide), by decide⟩
  have suffixes : (∀ c ∈ suffixOf retry, c.toNat < 0x10000) ∧ (suffixOf retry).length ≤ 8 := by
    cases retry with
    | none => exact ⟨forall_mem_of_all (by decide), by decide⟩
    | some digits =>
      rcases single digits rfl with rfl | rfl | rfl <;>
        exact ⟨forall_mem_of_all (by decide), by decide⟩
  obtain ⟨hex, rfl, length, isHex⟩ := isPosition.shape
  have hexes : ∀ c ∈ hex, c.toNat < 0x10000 := by
    intro c member
    have shape : c.isDigit = true ∨ ('a' ≤ c ∧ c ≤ 'f') := by simpa [isHexDigit] using isHex c member
    rcases shape with digit | ⟨-, high⟩
    · have high : c.toNat ≤ 57 := (Char.isDigit_iff_toNat.mp digit).2
      omega
    · have high : c.toNat ≤ 102 := high
      omega
  have literals : ∀ c ∈ "execution_live_position_".toList, c.toNat < 0x10000 :=
    forall_mem_of_all (by decide)
  have literal : "execution_live_position_".toList.length = 24 := by decide
  rw [rootOf_append, length_units]
  · simp only [List.length_append, List.length_cons, length, literal]
    omega
  · intro c member
    simp only [List.mem_append, List.mem_cons] at member
    rcases member with inLabel | rfl | (inLiteral | inHex) | inSuffix
    · exact labels.1 c inLabel
    · decide
    · exact literals c inLiteral
    · exact hexes c inHex
    · exact suffixes.1 c inSuffix

end Known

/-! ## Eligible keys -/

section Eligible

theorem eligible_iff (key : String) :
    (exec REEXIT_ELIGIBLE_LOGICAL_KEY_SQL_PATTERN key.toList).isSome = true ↔
      (reExitLogicalCommandId key).isSome = true := by
  rw [isSome_exec, denotes_eligible]
  constructor
  · rintro ⟨label, position, retry, known, isPosition, belowCap, isKey⟩
    obtain ⟨reason, isReason⟩ := known.reason
    have small : (retry.map digitsValue).getD 0 ≤ 2 := by
      cases retry with
      | none => decide
      | some digits => rcases belowCap digits rfl with rfl | rfl <;> decide
    have isRetry : IsRetry retry := by
      constructor
      rintro digits rfl
      rcases belowCap digits rfl with rfl | rfl
      · exact ⟨'1', [], rfl, by decide, nofun⟩
      · exact ⟨'2', [], rfl, by decide, nofun⟩
    have short : (units (String.ofList (rootOf label position ++ suffixOf retry))).length ≤ 256 :=
      known.short isPosition fun digits isDigits => (belowCap digits isDigits).imp_right .inl
    have parsed := parseLogicalKey_key known.isLabel isPosition isRetry short
    rw [← isKey, String.ofList_toList, isReason,
      if_neg (Nat.not_lt.mpr (Nat.le_trans small (by decide)))] at parsed
    unfold reExitLogicalCommandId
    rw [parsed]
    change Option.isSome (if MAXIMUM_RE_EXITS < (retry.map digitsValue).getD 0 + 1 then _ else _) = true
    rw [if_neg (by unfold MAXIMUM_RE_EXITS; omega)]
    rfl
  · intro hasNext
    unfold reExitLogicalCommandId at hasNext
    have short : (units key).length ≤ 256 := by
      by_contra long
      rw [parseLogicalKey, if_pos (Nat.not_le.mp long)] at hasNext
      cases hasNext
    have found : (exec LOGICAL_KEY_PATTERN key.toList).isSome = true := by
      by_contra notFound
      rw [parseLogicalKey, if_neg (Nat.not_lt.mpr short), Option.not_isSome_iff_eq_none.mp notFound]
        at hasNext
      cases hasNext
    obtain ⟨captures, denotes⟩ := isSome_exec.mp found
    obtain ⟨label, position, retry, isLabel, isPosition, isRetry, isKey, -⟩ :=
      denotes_logicalKey.mp denotes
    have keyText : key = String.ofList (rootOf label position ++ suffixOf retry) := by
      rw [← isKey, String.ofList_toList]
    rw [keyText] at short
    rw [keyText, parseLogicalKey_key isLabel isPosition isRetry short] at hasNext
    by_cases above : MAXIMUM_RE_EXITS < (retry.map digitsValue).getD 0
    · rw [if_pos above] at hasNext
      cases hasNext
    rw [if_neg above] at hasNext
    cases isReason : reasonOf label with
    | none =>
      rw [isReason] at hasNext
      cases hasNext
    | some reason =>
      rw [isReason] at hasNext
      by_cases capped : MAXIMUM_RE_EXITS < (retry.map digitsValue).getD 0 + 1
      · change (if MAXIMUM_RE_EXITS < (retry.map digitsValue).getD 0 + 1 then none else _).isSome = true
          at hasNext
        rw [if_pos capped] at hasNext
        cases hasNext
      · refine ⟨label, position, retry, isKnown_of_reason isReason, isPosition, ?_, isKey⟩
        rintro digits rfl
        have inCap : digitsValue digits ≤ MAXIMUM_RE_EXITS := Nat.not_lt.mp above
        rcases isRetry.single inCap with rfl | rfl | rfl
        · exact .inl rfl
        · exact .inr rfl
        · exact absurd (by decide) capped

end Eligible

/-! ## Iterated re-exits -/

/-- The retry suffix of the nth re-exit. -/
def retryAt : Nat → Option (List Char)
  | 0 => none
  | count + 1 => some (toString (count + 1)).toList

def keyAt (label : Label) (position : List Char) (count : Nat) : String :=
  String.ofList (rootOf label position ++ suffixOf (retryAt count))

/-- A key no re-exit was made from yet: the engine's exit key of an early reason, or the deadline's. -/
inductive FreshKey : ExitReason → String → Prop
  | early {reason : FastExitReason} {positionId key : String}
      (made : fastExitLogicalCommandId reason positionId = .ok key) : FreshKey (.early reason) key
  | deadline {positionId : String} (isPosition : (exec POSITION_ID positionId.toList).isSome = true) :
      FreshKey .deadline ("maximum-holding:" ++ positionId)

/-- What `reExitLogicalCommandId` gives after so many calls. -/
def reExits (key : String) : Nat → Option String
  | 0 => some key
  | count + 1 => (reExits key count).bind reExitLogicalCommandId

section Iterate

variable {label : Label} {reason : ExitReason}

theorem retryAt_single {count : Nat} (inCap : count ≤ MAXIMUM_RE_EXITS) :
    IsRetry (retryAt count) ∧ ((retryAt count).map digitsValue).getD 0 = count ∧
      ∀ digits, retryAt count = some digits → digits = ['1'] ∨ digits = ['2'] ∨ digits = ['3'] := by
  have digit : ∀ c, ('1' ≤ c ∧ c ≤ '9') → IsRetry (some [c]) := by
    intro c range
    constructor
    rintro _ ⟨⟩
    exact ⟨c, [], rfl, range, nofun⟩
  have cases : count = 0 ∨ count = 1 ∨ count = 2 ∨ count = 3 := by
    unfold MAXIMUM_RE_EXITS at inCap
    omega
  rcases cases with rfl | rfl | rfl | rfl
  · exact ⟨⟨nofun⟩, rfl, nofun⟩
  · exact ⟨digit '1' (by decide), rfl, fun _ same => .inl (Option.some.inj same).symm⟩
  · exact ⟨digit '2' (by decide), rfl, fun _ same => .inr (.inl (Option.some.inj same).symm)⟩
  · exact ⟨digit '3' (by decide), rfl, fun _ same => .inr (.inr (Option.some.inj same).symm)⟩

theorem parseLogicalKey_keyAt (isPosition : IsPositionId position) (isReason : reasonOf label = some reason)
    {count : Nat} (inCap : count ≤ MAXIMUM_RE_EXITS) :
    parseLogicalKey (keyAt label position count) =
      some ⟨String.ofList (rootOf label position), reason, count⟩ := by
  have known := isKnown_of_reason isReason
  obtain ⟨isRetry, value, single⟩ := retryAt_single inCap
  unfold keyAt
  rw [parseLogicalKey_key known.isLabel isPosition isRetry (known.short isPosition single), value,
    if_neg (Nat.not_lt.mpr inCap), isReason]
  rfl

theorem reExit_keyAt (isPosition : IsPositionId position) (isReason : reasonOf label = some reason)
    {count : Nat} (inCap : count ≤ MAXIMUM_RE_EXITS) :
    reExitLogicalCommandId (keyAt label position count) =
      if MAXIMUM_RE_EXITS < count + 1 then none else some (keyAt label position (count + 1)) := by
  have next : String.ofList (rootOf label position) ++ ":retry-" ++ toString (count + 1) =
      keyAt label position (count + 1) := by
    rw [keyAt, ← String.toList_inj, String.toList_append, String.toList_append, String.toList_ofList,
      String.toList_ofList, String.toList_ofList, List.append_assoc]
    rfl
  unfold reExitLogicalCommandId
  rw [parseLogicalKey_keyAt isPosition isReason inCap, ← next]

theorem reExits_keyAt (isPosition : IsPositionId position) (isReason : reasonOf label = some reason) :
    ∀ count, reExits (keyAt label position 0) count =
      if count ≤ MAXIMUM_RE_EXITS then some (keyAt label position count) else none := by
  intro count
  induction count with
  | zero => rfl
  | succ count ih =>
    rw [reExits, ih]
    by_cases inCap : count ≤ MAXIMUM_RE_EXITS
    · rw [if_pos inCap, Option.bind_some, reExit_keyAt isPosition isReason inCap]
      by_cases next : count + 1 ≤ MAXIMUM_RE_EXITS
      · rw [if_pos next, if_neg (Nat.not_lt.mpr next)]
      · rw [if_neg next, if_pos (Nat.not_le.mp next)]
    · rw [if_neg inCap, if_neg (fun next => inCap (Nat.le_of_succ_le next))]
      rfl

theorem isPositionId_of_exec {positionId : String}
    (found : (exec POSITION_ID positionId.toList).isSome = true) : IsPositionId positionId.toList := by
  obtain ⟨captures, denotes⟩ := isSome_exec.mp found
  exact (denotes_positionId.mp denotes).1

theorem FreshKey.keyAt {key : String} (fresh : FreshKey reason key) :
    ∃ label position, IsPositionId position ∧ reasonOf label = some reason ∧
      key = ReExitKeys.keyAt label position 0 := by
  cases fresh with
  | @early reason positionId key made =>
    simp only [fastExitLogicalCommandId, bind_eq_ok, require_eq_ok, pure_eq_ok] at made
    obtain ⟨-, isPosition, rfl⟩ := made
    refine ⟨some reason.text.toList, positionId.toList, isPositionId_of_exec isPosition,
      reasonOf_text reason, ?_⟩
    rw [← String.toList_inj, ReExitKeys.keyAt, String.toList_ofList]
    simp only [String.toList_append]
    exact (List.append_nil _).symm
  | @deadline positionId isPosition =>
    refine ⟨none, positionId.toList, isPositionId_of_exec isPosition, rfl, ?_⟩
    rw [← String.toList_inj, ReExitKeys.keyAt, String.toList_ofList]
    simp only [String.toList_append]
    exact (List.append_nil _).symm

end Iterate

/-- Both sides select the same keys, and a fresh exit key is re-exited as often as the cap says: the
keys are distinct and keep the exit reason. -/
theorem reExitKeys_exact :
    (∀ key : String, (exec REEXIT_ELIGIBLE_LOGICAL_KEY_SQL_PATTERN key.toList).isSome = true ↔
      (reExitLogicalCommandId key).isSome = true) ∧
    ∀ reason key, FreshKey reason key →
      (∀ count, (reExits key count).isSome = true ↔ count ≤ MAXIMUM_RE_EXITS) ∧
      (∀ first second next, reExits key first = some next → reExits key second = some next →
        first = second) ∧
      ∀ count next, reExits key count = some next → exitReasonOfLogicalKey next = some reason := by
  refine ⟨eligible_iff, fun reason key fresh => ?_⟩
  obtain ⟨label, position, isPosition, isReason, rfl⟩ := fresh.keyAt
  have parsed : ∀ count next, reExits (keyAt label position 0) count = some next →
      parseLogicalKey next = some ⟨String.ofList (rootOf label position), reason, count⟩ := by
    intro count next isNext
    rw [reExits_keyAt isPosition isReason] at isNext
    split at isNext
    · next inCap =>
        cases isNext
        exact parseLogicalKey_keyAt isPosition isReason inCap
    · cases isNext
  refine ⟨fun count => ?_, fun first second next isFirst isSecond => ?_, fun count next isNext => ?_⟩
  · rw [reExits_keyAt isPosition isReason]
    split
    · next inCap => exact iff_of_true rfl inCap
    · next above => exact iff_of_false (by simp) above
  · have same := (parsed first next isFirst).symm.trans (parsed second next isSecond)
    exact congrArg LogicalKey.retry (Option.some.inj same)
  · rw [exitReasonOfLogicalKey, parsed count next isNext]
    rfl

end SolTokenListener.Guarantees.ReExitKeys
