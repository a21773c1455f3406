import Mathlib.Data.List.Basic
import Mathlib.Order.Lattice

/-!
# Reading a log from a position

The rows of a log ascend strictly by a key. A reader that remembers the key of the last row it has taken
goes on with the rows after that key.
-/

namespace SolTokenListener.Lib.OrderedLog

variable {α κ : Type} [LinearOrder κ] (key : α → κ)

/-- The rows whose key is above the position. -/
def after (position : κ) (log : List α) : List α := log.filter fun row => decide (position < key row)

variable {key} {position : κ} {log front rest : List α} {row : α}

theorem after_append (more : List α) :
    after key position (log ++ more) = after key position log ++ after key position more :=
  List.filter_append log more

theorem after_eq_self (above : ∀ row ∈ log, position < key row) : after key position log = log :=
  List.filter_eq_self.mpr fun row mem => decide_eq_true (above row mem)

theorem after_eq_nil (below : ∀ row ∈ log, key row ≤ position) : after key position log = [] :=
  List.filter_eq_nil_iff.mpr fun row mem => by
    rw [decide_eq_true_eq]
    exact not_lt_of_ge (below row mem)

theorem lt_of_mem_after (mem : row ∈ after key position log) : position < key row :=
  of_decide_eq_true (List.mem_filter.mp mem).2

theorem after_after {later : κ} (le : position ≤ later) :
    after key later (after key position log) = after key later log := by
  rw [after, after, List.filter_filter]
  refine List.filter_congr fun row _ => ?_
  by_cases above : later < key row
  · simp only [decide_eq_true above, decide_eq_true (lt_of_le_of_lt le above), Bool.and_self]
  · simp only [decide_eq_false above, Bool.false_and]

/-- Behind a row that was read come exactly the rows after its key. -/
theorem after_of_split (ascending : log.Pairwise (key · < key ·))
    (split : after key position log = front ++ row :: rest) : after key (key row) log = rest := by
  have mem : row ∈ after key position log := split ▸ List.mem_append_right front List.mem_cons_self
  have sorted : (front ++ row :: rest).Pairwise (key · < key ·) := split ▸ ascending.filter _
  obtain ⟨_, sortedRest, before⟩ := List.pairwise_append.mp sorted
  rw [← after_after (lt_of_mem_after mem).le, split, ← List.singleton_append, after_append, after_append,
    after_eq_nil fun early isEarly => (before early isEarly row List.mem_cons_self).le,
    after_eq_nil fun same isSame => (List.mem_singleton.mp isSame ▸ le_refl _),
    after_eq_self (List.pairwise_cons.mp sortedRest).1, List.nil_append, List.nil_append]

/-- Rows dropped from the front are not missed by a reader whose row is still there. -/
theorem after_drop (ascending : log.Pairwise (key · < key ·)) {count : Nat} (mem : row ∈ log.drop count) :
    after key (key row) (log.drop count) = after key (key row) log := by
  have sorted := (List.take_append_drop count log).symm ▸ ascending
  conv_rhs => rw [← List.take_append_drop count log, after_append]
  rw [after_eq_nil fun early isEarly => ((List.pairwise_append.mp sorted).2.2 early isEarly row mem).le,
    List.nil_append]

end SolTokenListener.Lib.OrderedLog
