/-!
# Call trees as flat lists

A call tree in execution order, each call with its level: a call stands before what it calls, one level
deeper. A call is directly under another when it is one level deeper and nothing between them is back
at the level of the other. A call whose level is not known has no place in the tree.
-/

namespace SolTokenListener.Lib.CallTree

variable {α : Type} {level : α → Option Int} {calls : List α}

/-- `callee` is called by `caller` itself. -/
def DirectlyUnder (level : α → Option Int) (calls : List α) (caller callee : α) : Prop :=
  ∃ before between after height,
    calls = before ++ caller :: (between ++ callee :: after) ∧
      level caller = some height ∧ level callee = some (height + 1) ∧
      ∀ other ∈ between, ∀ known, level other = some known → height < known

/-- Two places of one element in a list without repetitions are the same place. -/
theorem split_unique {before before' after after' : List α} {middle : α}
    (nodup : (before ++ middle :: after).Nodup)
    (same : before ++ middle :: after = before' ++ middle :: after') : before = before' := by
  induction before generalizing before' with
  | nil =>
    cases before' with
    | nil => rfl
    | cons first rest =>
      simp only [List.nil_append, List.cons_append, List.cons.injEq] at same
      obtain ⟨rfl, rfl⟩ := same
      simp at nodup
  | cons first rest ih =>
    cases before' with
    | nil =>
      simp only [List.nil_append, List.cons_append, List.cons.injEq] at same
      obtain ⟨rfl, rfl⟩ := same
      simp at nodup
    | cons first' rest' =>
      simp only [List.cons_append, List.cons.injEq] at same
      obtain ⟨rfl, same⟩ := same
      rw [ih (List.nodup_cons.mp nodup).2 same]

variable {callee : α}

/-- A call is directly under one call only. -/
theorem DirectlyUnder.unique {caller caller' : α} (nodup : calls.Nodup)
    (under : DirectlyUnder level calls caller callee)
    (under' : DirectlyUnder level calls caller' callee) : caller = caller' := by
  obtain ⟨before, between, after, height, split, isCaller, isCallee, deeper⟩ := under
  obtain ⟨before', between', after', height', split', isCaller', isCallee', deeper'⟩ := under'
  have sameHeight : height = height' := by
    have heights := Option.some.inj (isCallee.symm.trans isCallee')
    omega
  subst sameHeight
  have front : before ++ caller :: between = before' ++ caller' :: between' := by
    have whole : (before ++ caller :: between) ++ callee :: after =
        (before' ++ caller' :: between') ++ callee :: after' := by
      rw [List.append_assoc, List.append_assoc]
      exact split.symm.trans split'
    refine split_unique ?_ whole
    rw [List.append_assoc]
    exact split ▸ nodup
  -- The later of the two callers would stand between the earlier one and the callee.
  rcases List.append_eq_append_iff.mp front with ⟨gap, isBefore', rest⟩ | ⟨gap, isBefore, rest⟩
  · cases gap with
    | nil => exact (List.cons.inj rest).1
    | cons first others =>
      obtain ⟨rfl, rfl⟩ := List.cons.inj rest
      have inside := deeper caller' (by simp) height isCaller'
      omega
  · cases gap with
    | nil => exact (List.cons.inj rest).1.symm
    | cons first others =>
      obtain ⟨rfl, rfl⟩ := List.cons.inj rest
      have inside := deeper' caller (by simp) height isCaller
      omega

/-! ## The tree itself -/

/-- Calls side by side, each with the calls it makes. -/
inductive Forest (α : Type) where
  | nil
  | call (caller : α) (callees rest : Forest α)

namespace Forest

/-- Execution order: a call, what it calls, then the next one. -/
def flatten : Forest α → List α
  | nil => []
  | call caller callees rest => caller :: (flatten callees ++ flatten rest)

def roots : Forest α → List α
  | nil => []
  | call caller _ rest => caller :: roots rest

/-- The levels grow by one from a call to its callees. -/
def HasLevels (level : α → Option Int) : Int → Forest α → Prop
  | _, nil => True
  | height, call caller callees rest =>
    level caller = some height ∧ HasLevels level (height + 1) callees ∧ HasLevels level height rest

def CalledBy : Forest α → α → α → Prop
  | nil, _, _ => False
  | call first callees rest, caller, callee =>
    (caller = first ∧ callee ∈ roots callees) ∨ CalledBy callees caller callee ∨
      CalledBy rest caller callee

variable {height : Int} {forest : Forest α}

theorem HasLevels.le (levels : HasLevels level height forest) :
    ∀ other ∈ flatten forest, ∃ known, level other = some known ∧ height ≤ known := by
  induction forest generalizing height with
  | nil => simp [flatten]
  | call caller callees rest inCallees inRest =>
    obtain ⟨isCaller, below, beside⟩ := levels
    intro other member
    simp only [flatten, List.mem_cons, List.mem_append] at member
    rcases member with rfl | inside | after
    · exact ⟨height, isCaller, Int.le_refl height⟩
    · obtain ⟨known, isKnown, deeper⟩ := inCallees below other inside
      exact ⟨known, isKnown, by omega⟩
    · exact inRest beside other after

/-- A root at its place: what stands before it is at its level or deeper. -/
theorem split_root (levels : HasLevels level height forest) {root : α}
    (isRoot : root ∈ roots forest) :
    ∃ before after, flatten forest = before ++ root :: after ∧ level root = some height ∧
      ∀ other ∈ before, ∀ known, level other = some known → height ≤ known := by
  induction forest with
  | nil => cases isRoot
  | call caller callees rest _ inRest =>
    have deep := levels.le
    obtain ⟨isCaller, -, beside⟩ := levels
    rcases List.mem_cons.mp isRoot with rfl | later
    · exact ⟨[], flatten callees ++ flatten rest, rfl, isCaller, by simp⟩
    · obtain ⟨before, after, split, isHeight, -⟩ := inRest beside later
      have whole : flatten (call caller callees rest) =
          (caller :: (flatten callees ++ before)) ++ root :: after := by
        simp [flatten, split]
      refine ⟨_, after, whole, isHeight, fun other member known isKnown => ?_⟩
      obtain ⟨known', isKnown', above⟩ := deep other (whole ▸ List.mem_append_left _ member)
      rw [isKnown] at isKnown'
      cases isKnown'
      exact above

/-- More calls around a list change nothing within it. -/
theorem directlyUnder_append {caller : α} (front back : List α)
    (under : DirectlyUnder level calls caller callee) :
    DirectlyUnder level (front ++ calls ++ back) caller callee := by
  obtain ⟨before, between, after, height, rfl, isCaller, isCallee, deeper⟩ := under
  exact ⟨front ++ before, between, after ++ back, height, by simp, isCaller, isCallee, deeper⟩

theorem CalledBy.directlyUnder {caller : α} (levels : HasLevels level height forest)
    (called : CalledBy forest caller callee) :
    DirectlyUnder level (flatten forest) caller callee := by
  induction forest generalizing height with
  | nil => cases called
  | call first callees rest inCallees inRest =>
    obtain ⟨isFirst, below, beside⟩ := levels
    rcases called with ⟨rfl, isRoot⟩ | inside | after
    · obtain ⟨before, after, split, isCallee, deep⟩ := split_root below isRoot
      refine ⟨[], before, after ++ flatten rest, height, by simp [flatten, split], isFirst, isCallee,
        fun other member known isKnown => ?_⟩
      have above := deep other member known isKnown
      omega
    · have under := directlyUnder_append [first] (flatten rest) (inCallees below inside)
      simpa [flatten] using under
    · have under := directlyUnder_append (first :: flatten callees) [] (inRest beside after)
      simpa [flatten] using under

/-- Every call is a root or called by another one. -/
theorem root_or_called (member : callee ∈ flatten forest) :
    callee ∈ roots forest ∨ ∃ caller, CalledBy forest caller callee := by
  induction forest with
  | nil => cases member
  | call first callees rest inCallees inRest =>
    simp only [flatten, List.mem_cons, List.mem_append] at member
    rcases member with rfl | inside | after
    · exact .inl (List.mem_cons_self ..)
    · rcases inCallees inside with isRoot | ⟨caller, called⟩
      · exact .inr ⟨first, .inl ⟨rfl, isRoot⟩⟩
      · exact .inr ⟨caller, .inr (.inl called)⟩
    · rcases inRest after with isRoot | ⟨caller, called⟩
      · exact .inl (List.mem_cons_of_mem _ isRoot)
      · exact .inr ⟨caller, .inr (.inr called)⟩

/-- Being directly under a call is being called by it. -/
theorem calledBy_of_directlyUnder {caller : α} (levels : HasLevels level height forest)
    (nodup : (flatten forest).Nodup) (under : DirectlyUnder level (flatten forest) caller callee) :
    CalledBy forest caller callee := by
  obtain ⟨before, between, after, _, split, isCaller, isCallee, -⟩ := id under
  have inside : callee ∈ flatten forest := by simp [split]
  rcases root_or_called inside with isRoot | ⟨parent, called⟩
  · obtain ⟨_, _, _, isHeight, _⟩ := split_root levels isRoot
    obtain ⟨known, isKnown, above⟩ := levels.le caller (by simp [split])
    rw [isCaller] at isKnown
    rw [isHeight] at isCallee
    cases isKnown
    cases isCallee
    omega
  · rwa [under.unique nodup (called.directlyUnder levels)]

end Forest

end SolTokenListener.Lib.CallTree
