import Mathlib.Data.List.TakeWhile

/-!
# Anchored patterns with named groups

Regular expressions over any letters: literals, repeated classes, sequence, choice, option and named
groups, matched against a whole text. `exec` searches in the order of a backtracking engine; a text has
a match exactly when the pattern denotes it.
-/

namespace SolTokenListener.Lib.TextPattern

inductive Pattern (Letter : Type) where
  | literal (text : List Letter)
  /-- A class of letters between `least` and `most` times; `none` is no upper bound. -/
  | repeated (accepts : Letter → Bool) (least : Nat) (most : Option Nat)
  | seq (first second : Pattern Letter)
  | alt (first second : Pattern Letter)
  | option (body : Pattern Letter)
  | group (name : String) (body : Pattern Letter)

/-- What the named groups matched, outer groups first. -/
abbrev Captures (Letter : Type) := List (String × List Letter)

variable {Letter : Type}

/-! ## Search -/

/-- The ways to split off a run of the class, the longest first. -/
def splits (accepts : Letter → Bool) (least : Nat) : Option Nat → List Letter → List (List Letter × List Letter)
  | most, text =>
    let longest := (text.takeWhile accepts).length
    let limit := match most with
      | none => longest
      | some bound => min longest bound
    ((List.range (limit + 1)).reverse.filter (least ≤ ·)).map fun count =>
      (text.take count, text.drop count)

/-- What a pattern can match at the start of a text, in the order it is tried. -/
def parses [DecidableEq Letter] : Pattern Letter → List Letter → List (List Letter × Captures Letter × List Letter)
  | .literal text, input =>
    if text.isPrefixOf input then [(text, [], input.drop text.length)] else []
  | .repeated accepts least most, input =>
    (splits accepts least most input).map fun split => (split.1, [], split.2)
  | .seq first second, input =>
    (parses first input).flatMap fun (matched, captures, rest) =>
      (parses second rest).map fun (others, more, left) =>
        (matched ++ others, captures ++ more, left)
  | .alt first second, input => parses first input ++ parses second input
  | .option body, input => parses body input ++ [([], [], input)]
  | .group name body, input =>
    (parses body input).map fun (matched, captures, rest) =>
      (matched, (name, matched) :: captures, rest)

/-- `^pattern$` on a whole text. -/
def exec [DecidableEq Letter] (pattern : Pattern Letter) (input : List Letter) : Option (Captures Letter) :=
  ((parses pattern input).find? (·.2.2.isEmpty)).map (·.2.1)

/-! ## Meaning -/

def Denotes : Pattern Letter → List Letter → Captures Letter → Prop
  | .literal text, word, captures => word = text ∧ captures = []
  | .repeated accepts least most, word, captures =>
    captures = [] ∧ (∀ c ∈ word, accepts c = true) ∧ least ≤ word.length ∧
      ∀ bound, most = some bound → word.length ≤ bound
  | .seq first second, word, captures => ∃ matched others inner more,
      word = matched ++ others ∧ captures = inner ++ more ∧ Denotes first matched inner ∧
        Denotes second others more
  | .alt first second, word, captures => Denotes first word captures ∨ Denotes second word captures
  | .option body, word, captures => Denotes body word captures ∨ (word = [] ∧ captures = [])
  | .group name body, word, captures => ∃ inner, captures = (name, word) :: inner ∧
      Denotes body word inner

variable {pattern : Pattern Letter} {captures : Captures Letter}

/-- A literal in front of a pattern. -/
theorem denotes_seq_literal {text word : List Letter} :
    Denotes (.seq (.literal text) pattern) word captures ↔
      ∃ rest, word = text ++ rest ∧ Denotes pattern rest captures := by
  constructor
  · rintro ⟨_, rest, _, _, rfl, rfl, ⟨rfl, rfl⟩, denotes⟩
    exact ⟨rest, rfl, denotes⟩
  · rintro ⟨rest, rfl, denotes⟩
    exact ⟨text, rest, [], captures, rfl, rfl, ⟨rfl, rfl⟩, denotes⟩

/-- A group without groups of its own in front of a pattern. -/
theorem denotes_seq_group {name : String} {body : Pattern Letter} {accepts : List Letter → Prop}
    (denotesBody : ∀ word captures, Denotes body word captures ↔ accepts word ∧ captures = [])
    {word : List Letter} :
    Denotes (.seq (.group name body) pattern) word captures ↔ ∃ matched rest inner,
      word = matched ++ rest ∧ accepts matched ∧ Denotes pattern rest inner ∧
        captures = (name, matched) :: inner := by
  constructor
  · rintro ⟨matched, rest, _, more, rfl, rfl, ⟨inner, rfl, isBody⟩, denotes⟩
    obtain ⟨accepted, rfl⟩ := (denotesBody matched inner).mp isBody
    exact ⟨matched, rest, more, rfl, accepted, denotes, rfl⟩
  · rintro ⟨matched, rest, inner, rfl, accepted, denotes, rfl⟩
    exact ⟨matched, rest, [(name, matched)], inner, rfl, rfl,
      ⟨[], rfl, (denotesBody matched []).mpr ⟨accepted, rfl⟩⟩, denotes⟩

variable {input : List Letter}

theorem mem_splits {accepts : Letter → Bool} {least : Nat} {most : Option Nat}
    {word rest : List Letter} : (word, rest) ∈ splits accepts least most input ↔
      input = word ++ rest ∧ (∀ c ∈ word, accepts c = true) ∧ least ≤ word.length ∧
        ∀ bound, most = some bound → word.length ≤ bound := by
  unfold splits
  simp only [List.mem_map, List.mem_filter, List.mem_reverse, List.mem_range, decide_eq_true_eq,
    Prod.mk.injEq]
  constructor
  · rintro ⟨count, ⟨inLimit, enough⟩, rfl, rfl⟩
    have inRun : count ≤ (input.takeWhile accepts).length := by
      split at inLimit <;> omega
    have inInput : count ≤ input.length :=
      Nat.le_trans inRun (List.takeWhile_prefix accepts).length_le
    have taken : input.take count = (input.takeWhile accepts).take count := by
      obtain ⟨rest, whole⟩ := List.takeWhile_prefix (l := input) accepts
      have cut : (input.takeWhile accepts ++ rest).take count = (input.takeWhile accepts).take count :=
        List.take_append_of_le_length inRun
      rw [← cut, whole]
    refine ⟨(List.take_append_drop count input).symm, ?_, ?_, ?_⟩
    · intro c member
      rw [taken] at member
      exact List.mem_takeWhile_imp (List.mem_of_mem_take member)
    · rw [List.length_take]
      omega
    · rintro bound rfl
      rw [List.length_take]
      dsimp only at inLimit
      omega
  · rintro ⟨rfl, accepted, enough, bounded⟩
    refine ⟨word.length, ⟨?_, enough⟩, List.take_left, List.drop_left⟩
    have inRun : word.length ≤ ((word ++ rest).takeWhile accepts).length := by
      rw [List.takeWhile_append_of_pos accepted, List.length_append]
      exact Nat.le_add_right _ _
    cases most with
    | none => exact Nat.lt_succ_of_le inRun
    | some bound => exact Nat.lt_succ_of_le (Nat.le_min.mpr ⟨inRun, bounded bound rfl⟩)

section Search

variable [DecidableEq Letter]

theorem mem_parses : ∀ {input word rest : List Letter} {captures : Captures Letter},
    (word, captures, rest) ∈ parses pattern input ↔ input = word ++ rest ∧
      Denotes pattern word captures := by
  induction pattern with
  | literal text =>
    intro input word rest captures
    unfold parses Denotes
    split
    · next isPrefix =>
        obtain ⟨others, rfl⟩ := List.isPrefixOf_iff_prefix.mp isPrefix
        simp only [List.drop_left, List.mem_singleton, Prod.mk.injEq]
        constructor
        · rintro ⟨rfl, rfl, rfl⟩
          exact ⟨rfl, rfl, rfl⟩
        · rintro ⟨same, rfl, rfl⟩
          exact ⟨rfl, rfl, (List.append_cancel_left same).symm⟩
    · next notPrefix =>
        simp only [List.not_mem_nil, false_iff, not_and]
        rintro rfl rfl
        exact absurd (List.isPrefixOf_iff_prefix.mpr (List.prefix_append _ _)) notPrefix
  | repeated accepts least most =>
    intro input word rest captures
    unfold parses Denotes
    simp only [List.mem_map, Prod.exists, Prod.mk.injEq]
    constructor
    · rintro ⟨matched, left, member, rfl, rfl, rfl⟩
      obtain ⟨same, accepted⟩ := mem_splits.mp member
      exact ⟨same, rfl, accepted⟩
    · rintro ⟨same, rfl, accepted⟩
      exact ⟨word, rest, mem_splits.mpr ⟨same, accepted⟩, rfl, rfl, rfl⟩
  | seq first second firstIh secondIh =>
    intro input word rest captures
    unfold parses Denotes
    simp only [List.mem_flatMap, List.mem_map, Prod.exists, Prod.mk.injEq]
    constructor
    · rintro ⟨matched, inner, middle, firstParse, others, more, left, secondParse, rfl, rfl, rfl⟩
      obtain ⟨rfl, firstDenotes⟩ := firstIh.mp firstParse
      obtain ⟨rfl, secondDenotes⟩ := secondIh.mp secondParse
      exact ⟨(List.append_assoc _ _ _).symm, matched, others, inner, more, rfl, rfl, firstDenotes,
        secondDenotes⟩
    · rintro ⟨rfl, matched, others, inner, more, rfl, rfl, firstDenotes, secondDenotes⟩
      exact ⟨matched, inner, others ++ rest,
        firstIh.mpr ⟨List.append_assoc _ _ _, firstDenotes⟩, others, more, rest,
        secondIh.mpr ⟨rfl, secondDenotes⟩, rfl, rfl, rfl⟩
  | alt first second firstIh secondIh =>
    intro input word rest captures
    unfold parses Denotes
    rw [List.mem_append, firstIh, secondIh, ← and_or_left]
  | option body ih =>
    intro input word rest captures
    unfold parses Denotes
    rw [List.mem_append, ih, List.mem_singleton, and_or_left]
    simp only [Prod.mk.injEq]
    constructor
    · rintro (matched | ⟨rfl, rfl, rfl⟩)
      · exact .inl matched
      · exact .inr ⟨rfl, rfl, rfl⟩
    · rintro (matched | ⟨same, rfl, rfl⟩)
      · exact .inl matched
      · exact .inr ⟨rfl, rfl, same.symm⟩
  | group name body ih =>
    intro input word rest captures
    unfold parses Denotes
    simp only [List.mem_map, Prod.exists, Prod.mk.injEq]
    constructor
    · rintro ⟨matched, inner, left, member, rfl, rfl, rfl⟩
      obtain ⟨same, denotes⟩ := ih.mp member
      exact ⟨same, inner, rfl, denotes⟩
    · rintro ⟨same, inner, rfl, denotes⟩
      exact ⟨word, inner, rest, ih.mpr ⟨same, denotes⟩, rfl, rfl, rfl⟩

theorem denotes_of_exec (found : exec pattern input = some captures) :
    Denotes pattern input captures := by
  obtain ⟨⟨word, inner, rest⟩, isFound, rfl⟩ := Option.map_eq_some_iff.mp found
  have member := mem_parses.mp (List.mem_of_find?_eq_some isFound)
  have isWhole := List.find?_some isFound
  have whole : rest = [] := List.isEmpty_iff.mp isWhole
  rw [whole, List.append_nil] at member
  rw [member.1]
  exact member.2

theorem isSome_exec :
    (exec pattern input).isSome = true ↔ ∃ captures, Denotes pattern input captures := by
  constructor
  · intro found
    obtain ⟨captures, isFound⟩ := Option.isSome_iff_exists.mp found
    exact ⟨captures, denotes_of_exec isFound⟩
  · rintro ⟨captures, denotes⟩
    rw [exec, Option.isSome_map, List.find?_isSome]
    exact ⟨(input, captures, []), mem_parses.mpr ⟨(List.append_nil _).symm, denotes⟩, rfl⟩

/-- Where the groups are determined by the text, the order of the search does not matter. -/
theorem exec_eq_some (unique : ∀ other, Denotes pattern input other → other = captures)
    (denotes : Denotes pattern input captures) : exec pattern input = some captures := by
  obtain ⟨found, isFound⟩ := Option.isSome_iff_exists.mp (isSome_exec.mpr ⟨captures, denotes⟩)
  rw [isFound, unique found (denotes_of_exec isFound)]

/-- The search finds the groups that the text determines. -/
theorem exec_iff
    (unique : ∀ left right, Denotes pattern input left → Denotes pattern input right → left = right) :
    exec pattern input = some captures ↔ Denotes pattern input captures :=
  ⟨denotes_of_exec, fun denotes => exec_eq_some (fun other isOther => unique other captures isOther denotes)
    denotes⟩

end Search

/-! ## Unambiguous texts -/

/-- A run of a class that another character ends is determined by the text. -/
theorem run_unique {accepts : Letter → Bool} {stop : Letter} (ends : accepts stop = false) :
    ∀ {left right leftRest rightRest : List Letter}, (∀ c ∈ left, accepts c = true) →
      (∀ c ∈ right, accepts c = true) →
      left ++ stop :: leftRest = right ++ stop :: rightRest → left = right ∧ leftRest = rightRest := by
  intro left
  induction left with
  | nil =>
    intro right leftRest rightRest _ accepted same
    cases right with
    | nil => exact ⟨rfl, (List.cons.inj same).2⟩
    | cons c rest =>
      obtain ⟨rfl, -⟩ := List.cons.inj same
      rw [accepted stop List.mem_cons_self] at ends
      cases ends
  | cons c rest ih =>
    intro right leftRest rightRest leftAccepted accepted same
    cases right with
    | nil =>
      obtain ⟨rfl, -⟩ := List.cons.inj same
      rw [leftAccepted c List.mem_cons_self] at ends
      cases ends
    | cons d others =>
      obtain ⟨rfl, tails⟩ := List.cons.inj same
      obtain ⟨rfl, rests⟩ := ih (fun c member => leftAccepted c (List.mem_cons_of_mem _ member))
        (fun c member => accepted c (List.mem_cons_of_mem _ member)) tails
      exact ⟨rfl, rests⟩

end SolTokenListener.Lib.TextPattern
