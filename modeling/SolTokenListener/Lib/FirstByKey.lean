/-!
# First occurrences by key

`firstByKey` is the filter that remembers the keys it has seen: it keeps, in order, the first
element of every key not seen before.
-/

namespace SolTokenListener.Lib.FirstByKey

variable {α κ : Type} [DecidableEq κ] (key : α → κ)

def firstByKey (seen : List κ) : List α → List α
  | [] => []
  | item :: rest =>
    if key item ∈ seen then firstByKey seen rest
    else item :: firstByKey (key item :: seen) rest

variable {key} {seen : List κ} {items : List α}

theorem firstByKey_sublist : (firstByKey key seen items).Sublist items := by
  induction items generalizing seen with
  | nil => exact List.Sublist.refl _
  | cons item rest ih =>
    rw [firstByKey]
    split
    · exact ih.cons item
    · exact ih.cons_cons item

theorem key_mem_firstByKey {k : κ} :
    k ∈ (firstByKey key seen items).map key ↔ k ∈ items.map key ∧ k ∉ seen := by
  induction items generalizing seen with
  | nil => simp [firstByKey]
  | cons item rest ih =>
    rw [firstByKey]
    split
    · next repeated =>
        rw [ih]
        simp only [List.map_cons, List.mem_cons]
        constructor
        · intro found
          exact ⟨.inr found.1, found.2⟩
        · rintro ⟨rfl | later, fresh⟩
          · exact absurd repeated fresh
          · exact ⟨later, fresh⟩
    · next fresh =>
        simp only [List.map_cons, List.mem_cons, ih, not_or]
        by_cases same : k = key item
        · subst same
          simp [fresh]
        · simp [same]

theorem firstByKey_nodup : ((firstByKey key seen items).map key).Nodup := by
  induction items generalizing seen with
  | nil => exact List.nodup_nil
  | cons item rest ih =>
    rw [firstByKey]
    split
    · exact ih
    · refine List.nodup_cons.mpr ⟨?_, ih⟩
      intro again
      exact (key_mem_firstByKey.mp again).2 List.mem_cons_self

/-- Only which keys were seen matters. -/
theorem firstByKey_congr {other : List κ} (same : ∀ k, k ∈ seen ↔ k ∈ other) :
    firstByKey key seen items = firstByKey key other items := by
  induction items generalizing seen other with
  | nil => rfl
  | cons item rest ih =>
    have grown : ∀ k, k ∈ key item :: seen ↔ k ∈ key item :: other := by
      intro k
      rw [List.mem_cons, List.mem_cons, same]
    simp only [firstByKey, same, ih same, ih grown]

end SolTokenListener.Lib.FirstByKey
