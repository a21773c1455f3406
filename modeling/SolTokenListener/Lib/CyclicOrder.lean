import Mathlib.Data.List.Find

/-!
# Searching a ring of places

The places of a ring in the order met from a start, and the first of them that is eligible. A search
from the start itself meets every place, one from its successor every other place.
-/

namespace SolTokenListener.Lib.CyclicOrder

/-- The places met from `first` steps after the start on, until the start would be met again. -/
def placesFrom (size start first : Nat) : List Nat :=
  (List.range' first (size - first)).map fun steps => (start + steps) % size

variable {size start first place : Nat}

theorem mem_placesFrom :
    place ∈ placesFrom size start first ↔
      ∃ steps, first ≤ steps ∧ steps < size ∧ (start + steps) % size = place := by
  simp only [placesFrom, List.mem_map, List.mem_range'_1]
  constructor
  · intro ⟨steps, bounds, met⟩
    exact ⟨steps, bounds.1, by omega, met⟩
  · intro ⟨steps, late, early, met⟩
    exact ⟨steps, ⟨late, by omega⟩, met⟩

theorem lt_of_mem_placesFrom (member : place ∈ placesFrom size start first) : place < size := by
  obtain ⟨steps, -, early, met⟩ := mem_placesFrom.mp member
  rw [← met]
  exact Nat.mod_lt _ (by omega)

/-- Every place is some number of steps after the start. -/
theorem exists_steps (start_lt : start < size) (place_lt : place < size) :
    ∃ steps, steps < size ∧ (start + steps) % size = place := by
  rcases Nat.lt_or_ge place start with before | after
  · refine ⟨place + size - start, by omega, ?_⟩
    have wrapped : start + (place + size - start) = place + size := by omega
    rw [wrapped, Nat.add_mod_right, Nat.mod_eq_of_lt place_lt]
  · refine ⟨place - start, by omega, ?_⟩
    rw [Nat.add_sub_cancel' after, Nat.mod_eq_of_lt place_lt]

theorem mem_placesFrom_zero (start_lt : start < size) (place_lt : place < size) :
    place ∈ placesFrom size start 0 := by
  obtain ⟨steps, early, met⟩ := exists_steps start_lt place_lt
  exact mem_placesFrom.mpr ⟨steps, Nat.zero_le _, early, met⟩

theorem mem_placesFrom_one (start_lt : start < size) (place_lt : place < size)
    (other : place ≠ start) : place ∈ placesFrom size start 1 := by
  obtain ⟨steps, early, met⟩ := exists_steps start_lt place_lt
  refine mem_placesFrom.mpr ⟨steps, ?_, early, met⟩
  rcases Nat.eq_zero_or_pos steps with none | some
  · rw [none, Nat.add_zero, Nat.mod_eq_of_lt start_lt] at met
    exact absurd met.symm other
  · exact some

/-- The place a search from the start finds is eligible, and no place met before it is. -/
theorem find_placesFrom_zero {eligible : Nat → Bool}
    (found : (placesFrom size start 0).find? eligible = some place) :
    ∃ steps < size, (start + steps) % size = place ∧ eligible place = true ∧
      ∀ fewer < steps, eligible ((start + fewer) % size) = false := by
  rw [placesFrom, List.find?_map, Nat.sub_zero, ← List.range_eq_range'] at found
  obtain ⟨steps, first, met⟩ := Option.map_eq_some_iff.mp found
  obtain ⟨accepted, member, before⟩ := List.find?_range_eq_some.mp first
  refine ⟨steps, List.mem_range.mp member, met, met ▸ accepted, ?_⟩
  intro fewer earlier
  simpa using before fewer earlier

end SolTokenListener.Lib.CyclicOrder
