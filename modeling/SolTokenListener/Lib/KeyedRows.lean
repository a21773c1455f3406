/-!
# Tables of rows with a unique key

A table is a list of rows whose keys are pairwise distinct. The lemmas say how the two ways
a statement changes a table, appending a row and replacing the selected rows, act on
membership and on keys.
-/

namespace SolTokenListener.Lib.KeyedRows

variable {ρ κ : Type} {rows : List ρ} {row : ρ}

/-- `UPDATE … SET write WHERE selected`. -/
def modifyWhere (selected : ρ → Bool) (write : ρ → ρ) (rows : List ρ) : List ρ :=
  rows.map fun old => if selected old then write old else old

/-- `UPDATE … SET row WHERE selected`. -/
def replaceWhere (selected : ρ → Bool) (row : ρ) (rows : List ρ) : List ρ :=
  modifyWhere selected (fun _ => row) rows

variable {selected : ρ → Bool}

theorem mem_modifyWhere {write : ρ → ρ} {found : ρ}
    (member : found ∈ modifyWhere selected write rows) :
    (found ∈ rows ∧ selected found = false) ∨
      ∃ old ∈ rows, selected old = true ∧ found = write old := by
  obtain ⟨old, oldMember, rfl⟩ := List.mem_map.mp member
  by_cases chosen : selected old = true
  · right
    exact ⟨old, oldMember, chosen, by simp [chosen]⟩
  · left
    have kept : selected old = false := by simpa using chosen
    simp [kept, oldMember]

theorem mem_modifyWhere_of_selected {write : ρ → ρ} {old : ρ} (member : old ∈ rows)
    (chosen : selected old = true) :
    write old ∈ modifyWhere selected write rows :=
  List.mem_map.mpr ⟨old, member, by simp [chosen]⟩

/-- Writing rows without touching their key keeps the list of keys. -/
theorem keys_modifyWhere (key : ρ → κ) {write : ρ → ρ}
    (sameKey : ∀ old ∈ rows, selected old = true → key (write old) = key old) :
    (modifyWhere selected write rows).map key = rows.map key := by
  rw [modifyWhere, List.map_map]
  apply List.map_congr_left
  intro old member
  by_cases chosen : selected old = true
  · simp [chosen, sameKey old member chosen]
  · simp [chosen]

theorem mem_replaceWhere {found : ρ} (member : found ∈ replaceWhere selected row rows) :
    (found ∈ rows ∧ selected found = false) ∨ (found = row ∧ ∃ old ∈ rows, selected old = true) := by
  rcases mem_modifyWhere member with kept | ⟨old, oldMember, chosen, same⟩
  · exact .inl kept
  · exact .inr ⟨same, old, oldMember, chosen⟩

theorem mem_replaceWhere_of_selected {old : ρ} (member : old ∈ rows) (chosen : selected old = true) :
    row ∈ replaceWhere selected row rows :=
  mem_modifyWhere_of_selected member chosen

/-- Replacing rows by one that carries their key keeps the list of keys. -/
theorem keys_replaceWhere (key : ρ → κ)
    (sameKey : ∀ old ∈ rows, selected old = true → key old = key row) :
    (replaceWhere selected row rows).map key = rows.map key :=
  keys_modifyWhere key fun old member chosen => (sameKey old member chosen).symm

theorem keys_append_nodup (key : ρ → κ) (distinct : (rows.map key).Nodup)
    (fresh : ∀ old ∈ rows, key old ≠ key row) : ((rows ++ [row]).map key).Nodup := by
  rw [List.map_append, List.nodup_append]
  refine ⟨distinct, by simp, ?_⟩
  intro k oldKey k' newKey same
  obtain ⟨old, member, rfl⟩ := List.mem_map.mp oldKey
  simp only [List.map_cons, List.map_nil, List.mem_singleton] at newKey
  exact fresh old member (same.trans newKey)

variable [DecidableEq κ]

/-- At most one row carries a given key. -/
theorem filter_key_length_le_one (key : ρ → κ) (distinct : (rows.map key).Nodup) (k : κ) :
    (rows.filter fun old => key old = k).length ≤ 1 := by
  induction rows with
  | nil => simp
  | cons head rest ih =>
    obtain ⟨fresh, restDistinct⟩ := List.nodup_cons.mp distinct
    by_cases hit : key head = k
    · have none : rest.filter (fun old => key old = k) = [] := by
        rw [List.filter_eq_nil_iff]
        intro old member same
        apply fresh
        exact List.mem_map.mpr ⟨old, member, by simpa [hit] using same⟩
      simp [hit, none]
    · simpa [List.filter_cons, hit] using ih restDistinct

theorem filter_key_length_eq_one (key : ρ → κ) (distinct : (rows.map key).Nodup)
    (member : row ∈ rows) : (rows.filter fun old => key old = key row).length = 1 := by
  have atMost := filter_key_length_le_one key distinct (key row)
  have found : row ∈ rows.filter fun old => key old = key row :=
    List.mem_filter.mpr ⟨member, by simp⟩
  have atLeast := List.length_pos_of_mem found
  omega

/-- The row a primary-key lookup returns is the only one with that key. -/
theorem find_key_eq_some (key : ρ → κ) (distinct : (rows.map key).Nodup) (member : row ∈ rows) :
    rows.find? (fun old => key old = key row) = some row := by
  induction rows with
  | nil => cases member
  | cons head rest ih =>
    obtain ⟨fresh, restDistinct⟩ := List.nodup_cons.mp distinct
    rcases List.mem_cons.mp member with same | later
    · subst same
      simp
    · have differs : key head ≠ key row := by
        intro same
        exact fresh (List.mem_map.mpr ⟨row, later, same.symm⟩)
      simp [differs, ih restDistinct later]

end SolTokenListener.Lib.KeyedRows
