/-
**Sorting by keys.**

Registrations, entries of a table and hooks are sorted by a key that no two of them share. The
comparison of keys is lawful: it is transitive, and only a key itself compares equal to it. So what
is sorted stands in strict order of the keys (`pairwise_lt_mergeSort`).
-/

import Mathlib.Data.List.Nodup

namespace Aggregation

namespace Sorting

variable {α κ : Type} {cmp : κ → κ → Ordering}

theorem isLE_total [Std.OrientedCmp cmp] (a b : κ) : ((cmp a b).isLE || (cmp b a).isLE) = true := by
  have swapped : cmp b a = (cmp a b).swap := Std.OrientedCmp.eq_swap
  rw [swapped]
  cases cmp a b <;> rfl

theorem lt_of_isLE_of_ne [Std.LawfulEqCmp cmp] {a b : κ} (ordered : (cmp a b).isLE = true)
    (different : a ≠ b) : cmp a b = .lt := by
  cases order : cmp a b with
  | lt => rfl
  | eq => exact absurd (Std.LawfulEqCmp.eq_of_compare order) different
  | gt =>
    rw [order] at ordered
    cases ordered

/-- **Items of different keys are sorted in strict order of the keys.** -/
theorem pairwise_lt_mergeSort [Std.TransCmp cmp] [Std.LawfulEqCmp cmp] (key : α → κ)
    {items : List α} (distinct : (items.map key).Nodup) :
    (items.mergeSort fun a b => (cmp (key a) (key b)).isLE).Pairwise
      fun a b => cmp (key a) (key b) = .lt := by
  have sorted : (items.mergeSort fun a b => (cmp (key a) (key b)).isLE).Pairwise
      fun a b => (cmp (key a) (key b)).isLE = true := by
    refine List.pairwise_mergeSort (fun _ _ _ => ?_) (fun a b => ?_) items
    · exact Std.TransCmp.isLE_trans
    · exact isLE_total (key a) (key b)
  have different : ((items.mergeSort fun a b => (cmp (key a) (key b)).isLE).map key).Nodup :=
    ((List.mergeSort_perm items _).map key).nodup_iff.mpr distinct
  exact (sorted.and (List.pairwise_map.mp different)).imp fun both =>
    lt_of_isLE_of_ne both.1 both.2

end Sorting

end Aggregation
