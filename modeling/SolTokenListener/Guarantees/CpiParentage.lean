import Mathlib.Data.Prod.Lex
import SolTokenListener.Lib.CallTree
import SolTokenListener.Source.PumpSwapMigrationMatcher
import SolTokenListener.Source.PumpSwapTransactions

/-!
# The three parent tests are the parent relation

In the flat list of a transaction's calls, the calls of a caller stand behind it and before the first
later call that is no deeper. The boundary the tests look for is that call, so a test accepts the calls one
level deeper up to it, and these are the callees.
-/

namespace SolTokenListener.Guarantees.CpiParentage

open Lib.CallTree
open Source.RpcTransaction
open Source.PumpTransactions
open Source.PumpSwapTransactions (insideScope)
open Source.PumpSwapMigrationMatcher

/-! ## Execution order -/

def level (instruction : NormalizedInstruction) : Option Int :=
  match instruction.innerInstructionIndex with
  | none => some 1
  | some _ => instruction.stackHeight.filter (2 ≤ ·)

/-- The place of an instruction: its outer one first, then the inner ones by index. -/
def position (instruction : NormalizedInstruction) : Nat ×ₗ Nat :=
  toLex (instruction.instructionIndex, (instruction.innerInstructionIndex.map (· + 1)).getD 0)

structure InExecutionOrder (instructions : List NormalizedInstruction) : Prop where
  sorted : instructions.Pairwise fun left right => position left < position right
  outer : ∀ instruction ∈ instructions, instruction.innerInstructionIndex = none →
    instruction.stackHeight = some 1

variable {instructions : List NormalizedInstruction}

theorem InExecutionOrder.nodup (ordered : InExecutionOrder instructions) : instructions.Nodup :=
  ordered.sorted.imp fun {_ _} earlier same => absurd (same ▸ earlier) (lt_irrefl _)

/-! ## The scope of an action is what is directly under it -/

variable {other : NormalizedInstruction}

section Scope

variable {action event : NormalizedInstruction}

/-- What the scope test of the source compares. -/
theorem isEventInsideActionScope_iff :
    isEventInsideActionScope action event instructions = true ↔
      ∃ eventInner height, event.innerInstructionIndex = some eventInner ∧
        action.stackHeight = some height ∧ event.instructionIndex = action.instructionIndex ∧
        event.stackHeight = some (height + 1) ∧
        ∀ actionInner, action.innerInstructionIndex = some actionInner →
          actionInner < eventInner ∧
            ∀ boundary, scopeBoundary action actionInner height instructions = some boundary →
              ∀ boundaryInner, boundary.innerInstructionIndex = some boundaryInner →
                eventInner < boundaryInner := by
  unfold isEventInsideActionScope
  cases isEvent : event.innerInstructionIndex with
  | none => simp
  | some eventInner =>
    cases isHeight : action.stackHeight with
    | none => simp
    | some height =>
      by_cases same : event.instructionIndex ≠ action.instructionIndex ∨
          event.stackHeight ≠ some (height + 1)
      · simp only [if_pos same, Bool.false_eq_true, Option.some.injEq, false_iff]
        rintro ⟨_, _, rfl, rfl, sameGroup, above, -⟩
        exact same.elim (· sameGroup) (· above)
      · simp only [if_neg same]
        push Not at same
        cases isAction : action.innerInstructionIndex with
        | none => simp [same]
        | some actionInner =>
          cases bounded : scopeBoundary action actionInner height instructions with
          | none => simp [same, bounded]
          | some boundary =>
            cases inner : boundary.innerInstructionIndex <;> simp [same, bounded, inner]

/-- Everything in the same group that is placed after the action is an inner instruction after it. -/
theorem inner_after (after : position action < position other)
    (sameGroup : other.instructionIndex = action.instructionIndex) :
    ∃ otherInner, other.innerInstructionIndex = some otherInner ∧
      ∀ actionInner, action.innerInstructionIndex = some actionInner → actionInner < otherInner := by
  cases isOther : other.innerInstructionIndex with
  | none =>
    simp only [position, isOther, sameGroup, Prod.Lex.toLex_lt_toLex, Option.map_none,
      Option.getD_none] at after
    omega
  | some otherInner =>
    refine ⟨otherInner, rfl, ?_⟩
    intro actionInner isAction
    simp only [position, isOther, isAction, sameGroup, Prod.Lex.toLex_lt_toLex, Option.map_some,
      Option.getD_some] at after
    omega

section Ordered

variable (ordered : InExecutionOrder instructions)

include ordered

/-- In execution order, what is placed after an element stands after it. -/
theorem split_after (isAction : action ∈ instructions)
    (isEvent : event ∈ instructions) (after : position action < position event) :
    ∃ front between back, instructions = front ++ action :: (between ++ event :: back) ∧
      ∀ other ∈ between, position action < position other ∧ position other < position event := by
  obtain ⟨front, rest, split⟩ := List.append_of_mem isAction
  have sorted := ordered.sorted
  rw [split, List.pairwise_append, List.pairwise_cons] at sorted
  obtain ⟨-, ⟨actionFirst, restSorted⟩, frontFirst⟩ := sorted
  have inRest : event ∈ rest := by
    rw [split, List.mem_append, List.mem_cons] at isEvent
    rcases isEvent with inFront | rfl | inRest
    · exact absurd after (lt_asymm (frontFirst event inFront action List.mem_cons_self))
    · exact absurd after (lt_irrefl _)
    · exact inRest
  obtain ⟨between, back, splitRest⟩ := List.append_of_mem inRest
  subst splitRest
  rw [List.pairwise_append] at restSorted
  refine ⟨front, between, back, split, ?_⟩
  intro other member
  exact ⟨actionFirst other (by simp [member]),
    restSorted.2.2 other member event List.mem_cons_self⟩

/-- The boundary is the first instruction after the action that is no deeper. -/
theorem scopeBoundary_first {actionInner otherInner : Nat}
    {height known : Int} (member : other ∈ instructions)
    (sameGroup : other.instructionIndex = action.instructionIndex)
    (isOther : other.innerInstructionIndex = some otherInner) (after : actionInner < otherInner)
    (isKnown : other.stackHeight = some known) (notDeeper : known ≤ height) :
    ∃ boundary boundaryInner, scopeBoundary action actionInner height instructions = some boundary ∧
      boundary.innerInstructionIndex = some boundaryInner ∧ boundaryInner ≤ otherInner := by
  have qualifies : (decide (other.instructionIndex = action.instructionIndex ∧
      other.innerInstructionIndex.any (actionInner < ·) ∧ other.stackHeight.any (· ≤ height))) = true := by
    simp [sameGroup, isOther, after, isKnown, notDeeper]
  cases found : scopeBoundary action actionInner height instructions with
  | none => exact absurd qualifies (List.find?_eq_none.mp found other member)
  | some boundary =>
    obtain ⟨isBoundary, front, back, split, notBefore⟩ := List.find?_eq_some_iff_append.mp found
    simp only [decide_eq_true_eq] at isBoundary
    obtain ⟨boundaryGroup, afterAction, -⟩ := isBoundary
    cases isInner : boundary.innerInstructionIndex with
    | none => simp [isInner] at afterAction
    | some boundaryInner =>
      refine ⟨boundary, boundaryInner, rfl, isInner, ?_⟩
      rw [split, List.mem_append, List.mem_cons] at member
      rcases member with inFront | rfl | inBack
      · simpa [qualifies] using notBefore other inFront
      · rw [isInner] at isOther
        exact (Option.some.inj isOther).le
      · have sorted := ordered.sorted
        rw [split, List.pairwise_append, List.pairwise_cons] at sorted
        have later := sorted.2.1.1 other inBack
        simp only [position, isInner, isOther, boundaryGroup, sameGroup, Prod.Lex.toLex_lt_toLex,
          Option.map_some, Option.getD_some] at later
        omega

theorem level_of_action (isAction : action ∈ instructions)
    {height : Int} (isHeight : action.stackHeight = some height)
    (inner : action.innerInstructionIndex.isSome → 2 ≤ height) :
    level action = some height ∧ 1 ≤ height := by
  unfold level
  cases isInner : action.innerInstructionIndex with
  | none =>
    have one := (ordered.outer action isAction isInner).symm.trans isHeight
    obtain rfl := Option.some.inj one
    exact ⟨rfl, le_rfl⟩
  | some actionInner =>
    have two := inner (by rw [isInner]; rfl)
    refine ⟨?_, by omega⟩
    rw [isHeight]
    simp [two]

theorem directlyUnder_of_scope (isAction : action ∈ instructions) (isEvent : event ∈ instructions)
    (inner : ∀ height, action.stackHeight = some height → action.innerInstructionIndex.isSome →
      2 ≤ height)
    (inside : isEventInsideActionScope action event instructions = true) :
    DirectlyUnder level instructions action event := by
  obtain ⟨eventInner, height, eventIsInner, isHeight, sameGroup, above, bounded⟩ :=
    isEventInsideActionScope_iff.mp inside
  obtain ⟨actionLevel, positive⟩ := level_of_action ordered isAction isHeight (inner height isHeight)
  have after : position action < position event := by
    simp only [position, sameGroup, eventIsInner, Prod.Lex.toLex_lt_toLex, Option.map_some,
      Option.getD_some]
    cases isInner : action.innerInstructionIndex with
    | none => simp
    | some actionInner => simpa using (bounded actionInner isInner).1
  have eventLevel : level event = some (height + 1) := by
    unfold level
    rw [eventIsInner, above]
    simp only [Option.filter_some, decide_eq_true_eq, ite_eq_left_iff, reduceCtorEq, imp_false]
    omega
  obtain ⟨front, between, back, split, placed⟩ := split_after ordered isAction isEvent after
  refine ⟨front, between, back, height, split, actionLevel, eventLevel, ?_⟩
  intro other member known isKnown
  obtain ⟨afterAction, beforeEvent⟩ := placed other member
  have group : other.instructionIndex = action.instructionIndex := by
    simp only [position, Prod.Lex.toLex_lt_toLex] at afterAction beforeEvent
    omega
  obtain ⟨otherInner, isOther, later⟩ := inner_after afterAction group
  unfold level at isKnown
  rw [isOther] at isKnown
  obtain ⟨otherHeight, two⟩ := Option.filter_eq_some_iff.mp isKnown
  have two : 2 ≤ known := by simpa using two
  cases isInner : action.innerInstructionIndex with
  | none =>
    have one := (ordered.outer action isAction isInner).symm.trans isHeight
    obtain rfl := Option.some.inj one
    omega
  | some actionInner =>
    by_contra notDeeper
    obtain ⟨boundary, boundaryInner, found, boundaryIndex, first⟩ := scopeBoundary_first ordered
      (split ▸ by simp [member]) group isOther (later actionInner isInner) otherHeight
      (not_lt.mp notDeeper)
    have inScope := (bounded actionInner isInner).2 boundary found boundaryInner boundaryIndex
    simp only [position, isOther, eventIsInner, group, sameGroup, Prod.Lex.toLex_lt_toLex,
      Option.map_some, Option.getD_some] at beforeEvent
    omega

end Ordered

end Scope

/-! ## Transactions as call trees -/

/-- The instructions are a call tree in execution order: recorded heights are levels, and outer
instructions are the calls at level one. -/
structure IsCallTree (calls : Forest NormalizedInstruction)
    (instructions : List NormalizedInstruction) : Prop where
  flat : instructions = calls.flatten
  heights : calls.HasLevels (·.stackHeight) 1
  sorted : instructions.Pairwise fun left right => position left < position right
  outer : ∀ instruction ∈ instructions,
    instruction.innerInstructionIndex = none ↔ instruction.stackHeight = some 1

variable {calls : Forest NormalizedInstruction}

section Tree

theorem IsCallTree.ordered (tree : IsCallTree calls instructions) : InExecutionOrder instructions :=
  ⟨tree.sorted, fun instruction member => (tree.outer instruction member).mp⟩

theorem IsCallTree.level_eq (tree : IsCallTree calls instructions)
    {instruction : NormalizedInstruction} (member : instruction ∈ instructions) :
    level instruction = instruction.stackHeight := by
  obtain ⟨height, isHeight, positive⟩ := tree.heights.le instruction (tree.flat ▸ member)
  have outer := tree.outer instruction member
  unfold level
  cases isInner : instruction.innerInstructionIndex with
  | none => exact (outer.mp isInner).symm
  | some inner =>
    have different : height ≠ 1 := by
      rintro rfl
      rw [isInner] at outer
      exact absurd (outer.mpr isHeight) (by simp)
    rw [isHeight]
    simp only [Option.filter_some, decide_eq_true_eq, ite_eq_left_iff]
    omega

theorem insideScope_eq (parent child : NormalizedInstruction) :
    insideScope parent child instructions = isEventInsideActionScope parent child instructions := by
  unfold insideScope isEventInsideActionScope
  cases parent.stackHeight <;> cases child.stackHeight <;> cases child.innerInstructionIndex <;>
    cases parent.innerInstructionIndex <;> simp

/-- What is inside the scope of an instruction is called by it. -/
theorem IsCallTree.called (tree : IsCallTree calls instructions)
    {parent child : NormalizedInstruction} (isParent : parent ∈ instructions)
    (isChild : child ∈ instructions) (inside : insideScope parent child instructions = true) :
    calls.CalledBy parent child := by
  rw [insideScope_eq] at inside
  have under := directlyUnder_of_scope tree.ordered isParent isChild (fun height isHeight isInner => ?_)
    inside
  · obtain ⟨before, between, after, height, split, isParent', isChild', deeper⟩ := under
    have known : ∀ other ∈ instructions, level other = other.stackHeight := fun _ => tree.level_eq
    have nodup : calls.flatten.Nodup := tree.flat ▸ tree.ordered.nodup
    refine Forest.calledBy_of_directlyUnder tree.heights nodup ⟨before, between, after, height,
      tree.flat ▸ split, (known parent isParent).symm.trans isParent', (known child isChild).symm.trans isChild', ?_⟩
    intro other member recorded isRecorded
    exact deeper other member recorded
      ((known other (by rw [split]; simp [member])).trans isRecorded)
  · obtain ⟨height', isHeight', positive⟩ := tree.heights.le parent (tree.flat ▸ isParent)
    rw [isHeight] at isHeight'
    cases isHeight'
    have outer := tree.outer parent isParent
    have different : height ≠ 1 := by
      rintro rfl
      rw [outer.mpr isHeight] at isInner
      cases isInner
    omega

end Tree

/-- The instructions are the calls of a transaction in execution order: an outer instruction is a root, a
callee has the outer index of its caller, and heights are depths. -/
structure IsCpiTree (calls : Forest NormalizedInstruction) (instructions : List NormalizedInstruction) : Prop
    extends IsCallTree calls instructions where
  group : ∀ caller callee, calls.CalledBy caller callee → callee.instructionIndex = caller.instructionIndex

/-- The boundary is an inner instruction behind the parent that is no deeper. -/
theorem scopeBoundary_facts {parent boundary : NormalizedInstruction} {inner : Nat} {height : Int}
    (found : scopeBoundary parent inner height instructions = some boundary) :
    boundary ∈ instructions ∧ boundary.instructionIndex = parent.instructionIndex ∧
      (∃ boundaryInner, boundary.innerInstructionIndex = some boundaryInner ∧ inner < boundaryInner) ∧
      ∃ boundaryHeight, boundary.stackHeight = some boundaryHeight ∧ boundaryHeight ≤ height := by
  have passed := List.find?_some found
  simp only [decide_eq_true_eq, Option.any_eq_true] at passed
  exact ⟨List.mem_of_find?_eq_some found, passed.1, passed.2.1, passed.2.2⟩

section Tree

variable {parent child : NormalizedInstruction}

theorem IsCpiTree.inside (tree : IsCpiTree calls instructions) (called : calls.CalledBy parent child) :
    isEventInsideActionScope parent child instructions = true := by
  have sameGroup := tree.group parent child called
  obtain ⟨before, between, after, height, split, isParent, isChild, deeper⟩ :=
    called.directlyUnder tree.heights
  rw [← tree.flat] at split
  have sorted := tree.sorted
  rw [split, List.pairwise_append, List.pairwise_cons, List.pairwise_append, List.pairwise_cons] at sorted
  obtain ⟨-, ⟨parentFirst, -, ⟨childFirst, -⟩, -⟩, beforeFirst⟩ := sorted
  obtain ⟨childInner, isChildInner, behind⟩ := inner_after (parentFirst child (by simp)) sameGroup
  refine isEventInsideActionScope_iff.mpr ⟨childInner, height, isChildInner, isParent, sameGroup, isChild, ?_⟩
  intro parentInner isParentInner
  refine ⟨behind parentInner isParentInner, fun boundary found boundaryInner isBoundaryInner => ?_⟩
  obtain ⟨isBoundary, boundaryGroup, ⟨inner, isInner, later⟩, boundaryHeight, isHeight, notDeeper⟩ :=
    scopeBoundary_facts found
  have isLater : position parent < position boundary := by
    simp only [position, boundaryGroup, isInner, isParentInner, Prod.Lex.toLex_lt_toLex, Option.map_some,
      Option.getD_some]
    exact Or.inr ⟨trivial, Nat.succ_lt_succ later⟩
  -- The boundary can only stand behind the child: what is between is deeper, the child is one level deeper.
  rw [split, List.mem_append, List.mem_cons, List.mem_append, List.mem_cons] at isBoundary
  rcases isBoundary with isBefore | rfl | isBetween | rfl | isAfter
  · exact absurd isLater (lt_asymm (beforeFirst boundary isBefore parent List.mem_cons_self))
  · exact absurd isLater (lt_irrefl _)
  · have := deeper boundary isBetween boundaryHeight isHeight
    omega
  · have := Option.some.inj (isChild.symm.trans isHeight)
    omega
  · obtain ⟨_, isAfterInner, above⟩ := inner_after (childFirst boundary isAfter) (boundaryGroup.trans sameGroup.symm)
    rw [isBoundaryInner] at isAfterInner
    obtain rfl := Option.some.inj isAfterInner
    exact above childInner isChildInner

theorem isDirectCpiChild_eq :
    isDirectCpiChild parent child instructions = isEventInsideActionScope parent child instructions := by
  unfold isDirectCpiChild isEventInsideActionScope
  cases parent.stackHeight with
  | none => cases child.innerInstructionIndex <;> rfl
  | some parentHeight =>
    cases child.innerInstructionIndex with
    | none => dsimp only; split <;> rfl
    | some childInner =>
      dsimp only
      by_cases above : child.stackHeight = some (parentHeight + 1)
      · by_cases sameGroup : child.instructionIndex = parent.instructionIndex
        · cases parentInner : parent.innerInstructionIndex with
          | none => simp [above, sameGroup]
          | some inner => by_cases later : inner < childInner <;> simp [above, sameGroup, later]
        · simp [above, sameGroup]
      · simp [above]

/-- In a transaction's calls each of the three tests holds for a pair exactly when the second instruction
is called by the first one itself. -/
theorem parent_tests_exact (tree : IsCpiTree calls instructions) (isParent : parent ∈ instructions)
    (isChild : child ∈ instructions) :
    (isEventInsideActionScope parent child instructions = true ↔ calls.CalledBy parent child) ∧
      (insideScope parent child instructions = true ↔ calls.CalledBy parent child) ∧
      (isDirectCpiChild parent child instructions = true ↔ calls.CalledBy parent child) := by
  have exact : isEventInsideActionScope parent child instructions = true ↔ calls.CalledBy parent child := by
    refine ⟨fun inside => ?_, tree.inside⟩
    exact tree.called isParent isChild ((insideScope_eq parent child).trans inside)
  refine ⟨exact, ?_, ?_⟩
  · rw [insideScope_eq, exact]
  · rw [isDirectCpiChild_eq, exact]

end Tree

/-! ## A small transaction -/

def sampleCall (innerInstructionIndex : Option Nat) (stackHeight : Int) : NormalizedInstruction where
  programId := ""
  accounts := []
  data := []
  instructionIndex := 0
  innerInstructionIndex
  parentInstructionIndex := innerInstructionIndex.map fun _ => 0
  stackHeight := some stackHeight

/-- An outer instruction calls two others, and the first of them calls a third one. -/
def sampleCpis : Forest NormalizedInstruction :=
  .call (sampleCall none 1)
    (.call (sampleCall (some 0) 2) (.call (sampleCall (some 1) 3) .nil .nil) (.call (sampleCall (some 2) 2) .nil .nil))
    .nil

theorem sampleCpis_tree : IsCpiTree sampleCpis sampleCpis.flatten := by
  refine ⟨⟨rfl, ?_, ?_, ?_⟩, ?_⟩
  · simp [sampleCpis, Forest.HasLevels, sampleCall]
  · decide
  · decide
  · intro caller callee called
    simp only [sampleCpis, Forest.CalledBy, Forest.roots, List.mem_cons, List.not_mem_nil, or_false, and_false]
      at called
    rcases called with ⟨rfl, rfl | rfl⟩ | ⟨rfl, rfl⟩ <;> rfl

theorem parent_tests_exact_sample :
    isDirectCpiChild (sampleCall (some 0) 2) (sampleCall (some 1) 3) sampleCpis.flatten = true ∧
      sampleCpis.CalledBy (sampleCall (some 0) 2) (sampleCall (some 1) 3) := by
  have inside : isDirectCpiChild (sampleCall (some 0) 2) (sampleCall (some 1) 3) sampleCpis.flatten = true := by
    decide
  exact ⟨inside, (parent_tests_exact sampleCpis_tree (by decide) (by decide)).2.2.mp inside⟩

end SolTokenListener.Guarantees.CpiParentage
