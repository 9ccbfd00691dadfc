/-
**What a list of backends keeps of those that were added to it.**

Backends are added in any order, gated ones and external ones, and the same identity may come again
with another priority, another service or of the other kind. Of each identity the list keeps what
was added first, and it keeps the order of these first additions (`entries_extendAll`). So it has
one entry for each identity (`nodup_extendAll`).
-/

import Aggregation.Proofs.Discovery
import Aggregation.Proofs.Sync

namespace Aggregation

namespace SyncList

/-- A backend is added to a list. -/
inductive Addition where
  | gated (descriptor : Descriptor)
  | external (descriptor : Descriptor)

/-- The entry that an addition is about. -/
def Addition.entry : Addition → SyncEntry
  | gated descriptor => ⟨descriptor, true⟩
  | external descriptor => ⟨descriptor, false⟩

/-- The list after an addition. -/
def extend (list : SyncList) : Addition → SyncList
  | .gated descriptor => list.add descriptor
  | .external descriptor => list.addExternal descriptor

/-- The list after several additions. -/
def extendAll (list : SyncList) (additions : List Addition) : SyncList :=
  additions.foldl extend list

theorem extend_eq_push (list : SyncList) (addition : Addition) :
    list.extend addition = list.push addition.entry := by
  cases addition <;> rfl

theorem extendAll_concat (list : SyncList) (additions : List Addition) (last : Addition) :
    list.extendAll (additions ++ [last]) = (list.extendAll additions).push last.entry := by
  rw [← extend_eq_push]
  exact List.foldl_append

/-- The first entry of each identity, at its place. -/
def firsts (entries : List SyncEntry) : List SyncEntry :=
  (entries.map SyncEntry.identity).eraseDups.filterMap fun identity =>
    entries.find? fun entry => entry.identity = identity

/-- An entry counts if its identity is new. -/
theorem firsts_concat (entries : List SyncEntry) (last : SyncEntry) :
    firsts (entries ++ [last]) =
      firsts entries ++ if last.identity ∈ entries.map SyncEntry.identity then [] else [last] := by
  -- An identity that is there already is found where it was.
  have earlier : (entries.map SyncEntry.identity).eraseDups.filterMap (fun identity =>
      (entries ++ [last]).find? fun entry => entry.identity = identity) = firsts entries := by
    refine List.filterMap_congr fun identity member => ?_
    obtain ⟨entry, listed, same⟩ := List.mem_map.mp (List.mem_eraseDups.mp member)
    have found : (entries.find? fun entry => entry.identity = identity).isSome :=
      List.find?_isSome.mpr ⟨entry, listed, decide_eq_true same⟩
    rw [List.find?_append, Option.or_of_isSome found]
  unfold firsts at earlier ⊢
  rw [List.map_append, List.map_singleton, eraseDups_concat, List.filterMap_append, earlier]
  by_cases known : last.identity ∈ entries.map SyncEntry.identity
  · rw [if_pos known, if_pos (List.contains_iff_mem.mpr known), List.filterMap_nil]
  · have fresh : entries.find? (fun entry => entry.identity = last.identity) = none := by
      rw [List.find?_eq_none]
      intro entry listed same
      exact known (List.mem_map.mpr ⟨entry, listed, of_decide_eq_true same⟩)
    have unlisted : ¬(entries.map SyncEntry.identity).contains last.identity = true :=
      fun listed => known (List.contains_iff_mem.mp listed)
    rw [if_neg known, if_neg unlisted, List.filterMap_cons, List.find?_append, fresh]
    simp

theorem mem_identities_firsts {entries : List SyncEntry} {identity : Identity} :
    identity ∈ (firsts entries).map SyncEntry.identity ↔
      identity ∈ entries.map SyncEntry.identity := by
  induction entries using List.reverseRecOn with
  | nil => rfl
  | append_singleton entries last ih =>
    rw [firsts_concat, List.map_append, List.mem_append, ih, List.map_append, List.mem_append]
    by_cases known : last.identity ∈ entries.map SyncEntry.identity
    · rw [if_pos known, List.map_nil, List.map_singleton, List.mem_singleton]
      refine ⟨fun either => either.imp_right fun none => (List.not_mem_nil none).elim, ?_⟩
      rintro (listed | rfl)
      · exact Or.inl listed
      · exact Or.inl known
    · rw [if_neg known]

/-- **The list keeps the first entry of each identity.** -/
theorem entries_extendAll (additions : List Addition) :
    (empty.extendAll additions).entries = firsts (additions.map Addition.entry) := by
  induction additions using List.reverseRecOn with
  | nil => rfl
  | append_singleton additions last ih =>
    rw [extendAll_concat, List.map_append, List.map_singleton, firsts_concat]
    by_cases known : last.entry.identity ∈ (empty.extendAll additions).identities
    · have listed := known
      rw [identities, ih, mem_identities_firsts] at listed
      rw [push_known known, ih, if_pos listed, List.append_nil]
    · have unlisted := known
      rw [identities, ih, mem_identities_firsts] at unlisted
      rw [push_new known, ih, if_neg unlisted]

/-- Each identity has one entry. -/
theorem nodup_extendAll (additions : List Addition) :
    (empty.extendAll additions).identities.Nodup := by
  induction additions using List.reverseRecOn with
  | nil => exact List.nodup_nil
  | append_singleton additions last ih =>
    rw [extendAll_concat]
    exact nodup_push ih last.entry

end SyncList

end Aggregation
