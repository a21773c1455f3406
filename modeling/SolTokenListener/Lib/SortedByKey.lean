import Mathlib.Data.List.Nodup
import Mathlib.Order.Lattice

/-!
# Sorting by a key

A comparator that orders by a key into a linear order. Without two items of one key, sorting gives the
strictly increasing list of the items, whatever order they came in.
-/

namespace SolTokenListener.Lib.SortedByKey

variable {α κ : Type} [LinearOrder κ] {key : α → κ} {le : α → α → Bool} {items others : List α}

/-- The comparator orders by the key. -/
def OrdersBy (le : α → α → Bool) (key : α → κ) : Prop := ∀ first second,
  le first second = true ↔ key first ≤ key second

theorem pairwise_sort (orders : OrdersBy le key) :
    (items.mergeSort le).Pairwise fun first second => key first ≤ key second := by
  have sorted : (items.mergeSort le).Pairwise fun first second => le first second = true :=
    List.pairwise_mergeSort (fun first second third isLe isNextLe => (orders first third).mpr
      (le_trans ((orders first second).mp isLe) ((orders second third).mp isNextLe)))
    (fun first second => by
      rw [Bool.or_eq_true, orders, orders]
      exact le_total _ _) items
  exact sorted.imp fun isLe => (orders _ _).mp isLe

theorem strict_sort (orders : OrdersBy le key) (distinct : (items.map key).Nodup) :
    (items.mergeSort le).Pairwise fun first second => key first < key second := by
  have apart : (items.mergeSort le).Pairwise fun first second => key first ≠ key second :=
    List.pairwise_map.mp (((List.mergeSort_perm items le).map key).nodup_iff.mpr distinct)
  exact (pairwise_sort orders).imp₂ (fun _ _ isLe differ => lt_of_le_of_ne isLe differ) apart

theorem mem_sort {item : α} : item ∈ items.mergeSort le ↔ item ∈ items :=
  (List.mergeSort_perm items le).mem_iff

/-- Sorting forgets the order. -/
theorem sort_congr (orders : OrdersBy le key) (distinct : (items.map key).Nodup)
    (othersDistinct : (others.map key).Nodup) (same : ∀ item, item ∈ items ↔ item ∈ others) :
    items.mergeSort le = others.mergeSort le := by
  have perm : (items.mergeSort le).Perm (others.mergeSort le) :=
    (List.mergeSort_perm items le).trans (((List.perm_ext_iff_of_nodup
      (List.Nodup.of_map key distinct) (List.Nodup.of_map key othersDistinct)).mpr same).trans
        (List.mergeSort_perm others le).symm)
  refine perm.eq_of_pairwise ?_ (strict_sort orders distinct) (strict_sort orders othersDistinct)
  intro first second _ _ isLt isGt
  exact absurd isGt (lt_asymm isLt)

end SolTokenListener.Lib.SortedByKey
