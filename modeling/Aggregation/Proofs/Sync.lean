/-
**The list of backends to keep registered.**

The list has one entry for each identity (`nodup_push`). Backends of new identities are all taken
(`foldl_add`, `mem_foldl_addExternal`), and external ones never replace an entry that is there
(`foldl_addExternal`).
-/

import Aggregation.Sync
import Mathlib.Data.List.Nodup

namespace Aggregation

/-- The identity of the backend that an entry is about. -/
def SyncEntry.identity (entry : SyncEntry) : Identity := entry.descriptor.identity

namespace SyncList

/-- The identities of the entries. -/
def identities (list : SyncList) : List Identity := list.entries.map SyncEntry.identity

theorem any_identity (list : SyncList) (entry : SyncEntry) :
    (list.entries.any fun other => other.descriptor.identity == entry.descriptor.identity) = true ↔
      entry.identity ∈ list.identities := by
  rw [List.any_eq_true, identities, List.mem_map]
  exact exists_congr fun other => and_congr_right fun _ => beq_iff_eq

theorem push_known {list : SyncList} {entry : SyncEntry}
    (known : entry.identity ∈ list.identities) : list.push entry = list := by
  rw [push, if_pos ((any_identity list entry).mpr known)]

theorem push_new {list : SyncList} {entry : SyncEntry} (new : entry.identity ∉ list.identities) :
    (list.push entry).entries = list.entries ++ [entry] := by
  rw [push, if_neg fun known => new ((any_identity list entry).mp known)]

/-- Each identity has one entry. -/
theorem nodup_push {list : SyncList} (distinct : list.identities.Nodup) (entry : SyncEntry) :
    (list.push entry).identities.Nodup := by
  by_cases known : entry.identity ∈ list.identities
  · rw [push_known known]
    exact distinct
  · rw [identities, push_new known, List.map_append, List.map_singleton, ← List.concat_eq_append]
    exact distinct.concat known

/-- Backends of different identities that are not listed yet are all added. -/
theorem foldl_add {descriptors : List Descriptor} {list : SyncList}
    (distinct : (list.identities ++ descriptors.map Descriptor.identity).Nodup) :
    (descriptors.foldl add list).entries =
      list.entries ++ descriptors.map fun descriptor => ⟨descriptor, true⟩ := by
  induction descriptors generalizing list with
  | nil => simp
  | cons descriptor rest ih =>
    have new : SyncEntry.identity ⟨descriptor, true⟩ ∉ list.identities := by
      intro known
      exact (List.nodup_append.mp distinct).2.2 _ known _ List.mem_cons_self rfl
    have entries : (list.add descriptor).entries = list.entries ++ [⟨descriptor, true⟩] :=
      push_new new
    rw [List.foldl_cons, ih, entries, List.map_cons, List.append_assoc, List.singleton_append]
    rw [identities, entries, List.map_append, List.append_assoc]
    exact distinct

/-- External backends come after the entries that are there. -/
theorem foldl_addExternal (descriptors : List Descriptor) (list : SyncList) :
    ∃ external, (descriptors.foldl addExternal list).entries = list.entries ++ external ∧
      ∀ entry ∈ external, entry.gated = false := by
  induction descriptors generalizing list with
  | nil => exact ⟨[], by simp, by simp⟩
  | cons descriptor rest ih =>
    obtain ⟨external, entries, ungated⟩ := ih (list.addExternal descriptor)
    by_cases known : SyncEntry.identity ⟨descriptor, false⟩ ∈ list.identities
    · have same : list.addExternal descriptor = list := push_known known
      rw [same] at entries
      exact ⟨external, by rw [List.foldl_cons, same, entries], ungated⟩
    · have added : (list.addExternal descriptor).entries = list.entries ++ [⟨descriptor, false⟩] :=
        push_new known
      refine ⟨⟨descriptor, false⟩ :: external, ?_, ?_⟩
      · rw [List.foldl_cons, entries, added, List.append_assoc, List.singleton_append]
      · intro entry member
        rcases List.mem_cons.mp member with rfl | later
        · rfl
        · exact ungated entry later

/-- Of external backends of different identities, those are added whose identity is not listed. -/
theorem mem_foldl_addExternal {descriptors : List Descriptor} {list : SyncList}
    (distinct : (descriptors.map Descriptor.identity).Nodup) {descriptor : Descriptor}
    (member : descriptor ∈ descriptors) (new : descriptor.identity ∉ list.identities) :
    ⟨descriptor, false⟩ ∈ (descriptors.foldl addExternal list).entries := by
  induction descriptors generalizing list with
  | nil => cases member
  | cons first rest ih =>
    obtain ⟨unrepeated, others⟩ := List.nodup_cons.mp distinct
    rw [List.foldl_cons]
    rcases List.mem_cons.mp member with rfl | later
    · obtain ⟨external, entries, -⟩ := foldl_addExternal rest (list.addExternal descriptor)
      have added : (list.addExternal descriptor).entries = list.entries ++ [⟨descriptor, false⟩] :=
        push_new new
      rw [entries, added]
      simp
    · refine ih others later fun listed => ?_
      by_cases known : SyncEntry.identity ⟨first, false⟩ ∈ list.identities
      · rw [addExternal, push_known known] at listed
        exact new listed
      · rw [identities, addExternal, push_new known, List.map_append, List.mem_append] at listed
        rcases listed with listed | last
        · exact new listed
        · have same : descriptor.identity = first.identity := List.mem_singleton.mp last
          exact unrepeated (same ▸ List.mem_map_of_mem later)

theorem nodup_foldl_addExternal (descriptors : List Descriptor) {list : SyncList}
    (distinct : list.identities.Nodup) :
    (descriptors.foldl addExternal list).identities.Nodup := by
  induction descriptors generalizing list with
  | nil => exact distinct
  | cons descriptor rest ih => exact ih (nodup_push distinct ⟨descriptor, false⟩)

end SyncList

end Aggregation
