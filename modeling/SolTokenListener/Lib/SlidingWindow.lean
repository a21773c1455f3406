import Mathlib.Algebra.Order.Group.Defs

/-!
# Events in a sliding window

A list of times, newest first, is spaced when each time is at least `width` after the time `count`
places further down. No half-open interval of that width then holds more than `count` of them. The
times need not be all kept to keep a list spaced: it is enough to keep those of the last window.
-/

namespace SolTokenListener.Lib.SlidingWindow

variable {α : Type*} [AddCommGroup α] [LinearOrder α] {count : Nat} {width : α}

/-- The time and the `count` times before it are never all within a window. -/
def Spaced (count : Nat) (width : α) : List α → Prop
  | [] => True
  | time :: times => (∀ earlier ∈ times.drop (count - 1), earlier + width ≤ time) ∧
      Spaced count width times

/-- A new time is spaced when fewer than `count` times are kept and the others left the window. -/
theorem spaced_cons {time : α} {kept gone : List α} (spaced : Spaced count width (kept ++ gone))
    (few : kept.length < count) (left : ∀ earlier ∈ gone, earlier + width ≤ time) :
    Spaced count width (time :: (kept ++ gone)) := by
  refine ⟨fun earlier member => left earlier ?_, spaced⟩
  have longer : kept.length ≤ count - 1 := Nat.le_sub_one_of_lt few
  rw [List.drop_append, List.drop_eq_nil_of_le longer, List.nil_append] at member
  exact List.mem_of_mem_drop member

/-- The times a window holds, when it holds nothing that is `width` before one of them. -/
theorem length_filter_le (inside : α → Bool) (positive : 0 < count)
    (narrow : ∀ earlier time, earlier + width ≤ time → inside time → inside earlier = false)
    {times : List α} (spaced : Spaced count width times) : (times.filter inside).length ≤ count := by
  induction times with
  | nil => exact Nat.zero_le _
  | cons time rest ih =>
    by_cases isInside : inside time
    · have outside : (rest.drop (count - 1)).filter inside = [] := by
        rw [List.filter_eq_nil_iff]
        intro earlier member
        rw [narrow earlier time (spaced.1 earlier member) isInside]
        exact Bool.false_ne_true
      have recent : rest.filter inside = (rest.take (count - 1)).filter inside := by
        conv_lhs => rw [← List.take_append_drop (count - 1) rest]
        rw [List.filter_append, outside, List.append_nil]
      have few : ((rest.take (count - 1)).filter inside).length ≤ count - 1 :=
        (List.length_filter_le _ _).trans (List.length_take_le _ _)
      rw [List.filter_cons_of_pos isInside, List.length_cons, recent]
      omega
    · rw [List.filter_cons_of_neg isInside]
      exact ih spaced.2

variable [IsOrderedAddMonoid α]

theorem spaced_closedOpen (positive : 0 < count) {times : List α} (spaced : Spaced count width times)
    (from' : α) :
    (times.filter fun time => from' ≤ time ∧ time < from' + width).length ≤ count := by
  refine length_filter_le _ positive (fun earlier time gap inside => ?_) spaced
  simp only [decide_eq_true_eq, decide_eq_false_iff_not, not_and, not_lt] at inside ⊢
  intro notBefore
  have later := add_le_add_left notBefore width
  exact absurd (lt_of_lt_of_le inside.2 (later.trans gap)) (lt_irrefl _)

theorem spaced_openClosed (positive : 0 < count) {times : List α} (spaced : Spaced count width times)
    (from' : α) :
    (times.filter fun time => from' < time ∧ time ≤ from' + width).length ≤ count := by
  refine length_filter_le _ positive (fun earlier time gap inside => ?_) spaced
  simp only [decide_eq_true_eq, decide_eq_false_iff_not, not_and, not_le] at inside ⊢
  intro after
  have later := add_lt_add_left after width
  exact absurd (lt_of_lt_of_le (later.trans_le gap) inside.2) (lt_irrefl _)

end SolTokenListener.Lib.SlidingWindow
