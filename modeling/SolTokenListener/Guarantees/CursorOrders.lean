import SolTokenListener.Guarantees.FastExitRule

/-!
# The cursor orders agree

The early exit compares trades by differences and puts an outer instruction at inner index −1; the
domain compares cursors field by field and puts it before every inner one. On valid cursors both are one
lexicographic order. The event ids of the early exit only decide between trades at one position, and
with them its order is total on trades with distinct ids.
-/

namespace SolTokenListener.Guarantees.CursorOrders

open Lib.Checked Lib.Utf16Text
open Source.Chain Source.FastExit
open Guarantees.FastExitRule (cursorKey compareCursor_pos)

def cursorOf (trade : FastExitTrade) : ChainCursor where
  slot := trade.slot
  transactionIndex := trade.transactionIndex
  instructionIndex := trade.instructionIndex
  innerInstructionIndex := trade.innerInstructionIndex

def signOf (value : Int) : Ordering := compare value 0

variable {left right : FastExitTrade} {cursor other : ChainCursor}

theorem compareInt_eq (first second : Int) : compareInt first second = compare first second := by
  unfold compareInt
  rcases lt_trichotomy first second with less | same | greater
  · rw [if_pos less, compare_lt_iff_lt.mpr less]
  · rw [if_neg (by omega), if_neg (by omega), compare_eq_iff_eq.mpr same]
  · rw [if_neg (by omega), if_pos greater, compare_gt_iff_gt.mpr greater]

theorem signOf_sub (first second : Int) : signOf (first - second) = compare first second := by
  unfold signOf
  rcases lt_trichotomy first second with less | same | greater
  · rw [compare_lt_iff_lt.mpr (by omega), compare_lt_iff_lt.mpr less]
  · rw [compare_eq_iff_eq.mpr (by omega), compare_eq_iff_eq.mpr same]
  · rw [compare_gt_iff_gt.mpr (by omega), compare_gt_iff_gt.mpr greater]

/-- A valid inner index is no −1, so `?? -1` keeps an outer instruction apart. -/
theorem inner_nonneg (valid : assertValidChainCursor cursor = .ok ()) :
    ∀ index ∈ cursor.innerInstructionIndex, 0 ≤ index := by
  intro index isInner
  unfold assertValidChainCursor at valid
  simp only [bind_eq_ok] at valid
  obtain ⟨_, _, _, _, _, _, inner⟩ := valid
  rw [Option.mem_def.mp isInner] at inner
  have accepted := require_eq_ok.mp inner
  simp only [isIndex, Bool.decide_and, Bool.and_eq_true, decide_eq_true_eq] at accepted
  exact accepted.1

theorem compareInner_eq (leftNonneg : ∀ index ∈ cursor.innerInstructionIndex, 0 ≤ index)
    (rightNonneg : ∀ index ∈ other.innerInstructionIndex, 0 ≤ index) :
    compareInnerInstructionIndex cursor.innerInstructionIndex other.innerInstructionIndex =
      compare (cursor.innerInstructionIndex.getD (-1)) (other.innerInstructionIndex.getD (-1)) := by
  cases first : cursor.innerInstructionIndex <;> cases second : other.innerInstructionIndex
  · rfl
  · next index =>
      have nonneg := rightNonneg index second
      exact (compare_lt_iff_lt.mpr (by simp only [Option.getD]; omega)).symm
  · next index =>
      have nonneg := leftNonneg index first
      exact (compare_gt_iff_gt.mpr (by simp only [Option.getD]; omega)).symm
  · exact compareInt_eq _ _

theorem then_of_ne {first second : Int} (different : first ≠ second) (rest : Ordering) :
    (compare first second).then rest = compare first second := by
  cases order : compare first second with
  | eq => exact absurd (compare_eq_iff_eq.mp order) different
  | lt | gt => rfl

theorem then_of_eq {first second : Int} (same : first = second) (rest : Ordering) :
    (compare first second).then rest = rest := by
  rw [compare_eq_iff_eq.mpr same]
  rfl

theorem signOf_slots {first second : Int} (different : first ≠ second) :
    signOf (if first > second then 1 else -1) = compare first second := by
  split
  · next greater => rw [compare_gt_iff_gt.mpr greater]; rfl
  · rw [compare_lt_iff_lt.mpr (by omega)]; rfl

/-- Unless the event ids have to decide, the sign is the order of the cursors. -/
theorem signOf_compareCursor (leftValid : assertValidChainCursor (cursorOf left) = .ok ())
    (rightValid : assertValidChainCursor (cursorOf right) = .ok ())
    (undecided : left.eventId = right.eventId ∨ compareValidCursors (cursorOf left) (cursorOf right) ≠ .eq) :
    signOf (compareCursor left right) = compareValidCursors (cursorOf left) (cursorOf right) := by
  unfold compareValidCursors at undecided ⊢
  rw [compareInner_eq (inner_nonneg leftValid) (inner_nonneg rightValid)] at undecided ⊢
  simp only [compareInt_eq, cursorOf] at undecided ⊢
  unfold compareCursor
  split
  · next slots => rw [signOf_slots slots, then_of_ne slots]
  next slots =>
  rw [then_of_eq (not_not.mp slots)] at undecided ⊢
  split
  · next transactions => rw [signOf_sub, then_of_ne transactions]
  next transactions =>
  rw [then_of_eq (not_not.mp transactions)] at undecided ⊢
  split
  · next instructions => rw [signOf_sub, then_of_ne instructions]
  next instructions =>
  rw [then_of_eq (not_not.mp instructions)] at undecided ⊢
  dsimp only
  split
  · exact signOf_sub _ _
  next inners =>
  have samePosition := compare_eq_iff_eq.mpr (not_not.mp inners)
  rw [samePosition] at undecided ⊢
  rcases undecided with sameId | differs
  · rw [if_pos sameId]
    rfl
  · exact absurd rfl differs

theorem compareCursor_eq_zero (left right : FastExitTrade) :
    compareCursor left right = 0 ↔ cursorKey left = cursorKey right := by
  unfold compareCursor cursorKey
  simp only [EmbeddingLike.apply_eq_iff_eq, Prod.mk.injEq]
  split
  · next slots => exact iff_of_false (by split <;> decide) fun same => slots same.1
  next slots =>
  split
  · next transactions => exact iff_of_false (by omega) fun same => transactions same.2.1
  next transactions =>
  split
  · next instructions => exact iff_of_false (by omega) fun same => instructions same.2.2.1
  next instructions =>
  split
  · next inners => exact iff_of_false (by omega) fun same => inners same.2.2.2.1
  next inners =>
  rw [not_not] at slots transactions instructions inners
  simp only [slots, transactions, instructions, inners, true_and]
  split
  · next sameId => exact iff_of_true rfl (congrArg units sameId)
  · next differentId =>
      refine iff_of_false (by split <;> decide) fun same => differentId ?_
      exact units_injective same

theorem compareCursor_neg (left right : FastExitTrade) :
    compareCursor left right < 0 ↔ cursorKey left < cursorKey right := by
  have positive := compareCursor_pos left right
  have zero := compareCursor_eq_zero left right
  constructor
  · intro negative
    refine lt_of_le_of_ne (not_lt.mp fun after => ?_) fun same => ?_
    · have := positive.mpr after
      omega
    · have := zero.mpr same
      omega
  · intro isBefore
    have notPositive := mt positive.mp (not_lt.mpr isBefore.le)
    have notZero := mt zero.mp isBefore.ne
    omega

/-- On valid cursors the fast-exit order is the chain order, with the event id as the last key where the
cursors are equal; on trades with different ids it is a strict total order. -/
theorem cursor_orders_agree :
    (∀ left right : FastExitTrade, assertValidChainCursor (cursorOf left) = .ok () →
      assertValidChainCursor (cursorOf right) = .ok () →
      ∃ order, compareCursors (cursorOf left) (cursorOf right) = .ok order ∧
        (left.eventId = right.eventId ∨ order ≠ .eq → signOf (compareCursor left right) = order)) ∧
    (∀ trades : Set FastExitTrade, trades.InjOn (·.eventId) →
      IsStrictTotalOrder trades fun left right => compareCursor left right < 0) := by
  constructor
  · intro left right leftValid rightValid
    refine ⟨compareValidCursors (cursorOf left) (cursorOf right), ?_, signOf_compareCursor leftValid rightValid⟩
    unfold compareCursors
    rw [leftValid, rightValid]
    rfl
  · intro trades distinct
    simp only [compareCursor_neg]
    refine { trichotomous := ?_, irrefl := fun trade => lt_irrefl _, trans := fun _ _ _ => lt_trans }
    intro first second notBefore notAfter
    have sameKey := le_antisymm (not_lt.mp notAfter) (not_lt.mp notBefore)
    have sameId : units first.1.eventId = units second.1.eventId :=
      congrArg (fun key => (ofLex (ofLex (ofLex (ofLex key).2).2).2).2) sameKey
    exact Subtype.ext (distinct first.2 second.2 (units_injective sameId))

/-- Two trades of one transaction, the outer one first. -/
def outerTrade : FastExitTrade := ⟨"a", .buy, none, 1, 1, 5, 0, 2, none⟩
def innerTrade : FastExitTrade := ⟨"b", .buy, none, 1, 1, 5, 0, 2, some 0⟩

theorem distinct_outer_inner : Set.InjOn (·.eventId) ({outerTrade, innerTrade} : Set FastExitTrade) := by
  rintro first (rfl | rfl) second (rfl | rfl) sameId
  · rfl
  · exact absurd sameId (by decide)
  · exact absurd sameId (by decide)
  · rfl

theorem cursor_orders_agree_outer_inner :
    (∃ order, compareCursors (cursorOf outerTrade) (cursorOf innerTrade) = .ok order ∧
      (outerTrade.eventId = innerTrade.eventId ∨ order ≠ .eq →
        signOf (compareCursor outerTrade innerTrade) = order)) ∧
    IsStrictTotalOrder ({outerTrade, innerTrade} : Set FastExitTrade) fun left right =>
      compareCursor left right < 0 :=
  ⟨cursor_orders_agree.1 outerTrade innerTrade (by decide) (by decide),
    cursor_orders_agree.2 _ distinct_outer_inner⟩

end SolTokenListener.Guarantees.CursorOrders
