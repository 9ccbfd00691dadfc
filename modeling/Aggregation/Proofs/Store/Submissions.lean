/-
**Several submissions, one after the other.**

How a store answers a submission depends on its options and on what is registered under the
submitted identity, and on nothing else. So if identities are different, each of several submissions
is answered as if it were the only one (`upsert_submitAll`). With options that can encode, the
backends that were missing are put into the store in their order, and that is all that happens to it
(`submitAll_eq`): it `Restores` them, and the same submissions once more do nothing.
-/

import Aggregation.Proofs.Store.Upsert
import Mathlib.Data.List.Induction
import Mathlib.Data.List.Nodup

namespace Aggregation

namespace Store

/-- The store after several submissions. -/
def submitAll (store : Store) (descriptors : List Descriptor) : Store :=
  descriptors.foldl (fun store descriptor => (store.upsert descriptor).1) store

theorem submitAll_concat (store : Store) (descriptors : List Descriptor) (last : Descriptor) :
    store.submitAll (descriptors ++ [last]) = ((store.submitAll descriptors).upsert last).1 :=
  List.foldl_append

theorem options_submitAll (store : Store) (descriptors : List Descriptor) :
    (store.submitAll descriptors).options = store.options := by
  induction descriptors generalizing store with
  | nil => rfl
  | cons first rest ih => exact (ih (store.upsert first).1).trans (options_upsert store first)

/-! ### Each submission by itself -/

/-- Submissions leave the registrations of other identities alone. -/
theorem get?_submitAll_of_notMem (store : Store) {descriptors : List Descriptor}
    {identity : Identity} (other : identity ∉ descriptors.map Descriptor.identity) :
    (store.submitAll descriptors).get? identity = store.get? identity := by
  induction descriptors generalizing store with
  | nil => rfl
  | cons first rest ih =>
    rw [List.map_cons, List.mem_cons, not_or] at other
    exact (ih (store.upsert first).1 other.2).trans (get?_upsert_of_ne store other.1)

/-- **Submissions of other identities do not change what a submission is answered.** -/
theorem upsert_submitAll (store : Store) {descriptors : List Descriptor} {descriptor : Descriptor}
    (new : descriptor.identity ∉ descriptors.map Descriptor.identity) :
    ((store.submitAll descriptors).upsert descriptor).2 = (store.upsert descriptor).2 :=
  upsert_congr (options_submitAll store descriptors) (get?_submitAll_of_notMem store new)

/-! ### What is missing -/

/-- Those of some backends whose identities have no registration. -/
def missing (store : Store) (descriptors : List Descriptor) : List Descriptor :=
  descriptors.filter fun descriptor => (store.get? descriptor.identity).isNone

/-- Puts fresh registrations of backends into the store, one after the other. -/
def putAll (store : Store) (descriptors : List Descriptor) : Store :=
  descriptors.foldl (fun store descriptor => store.put (fresh descriptor)) store

theorem missing_concat (store : Store) (descriptors : List Descriptor) (last : Descriptor) :
    store.missing (descriptors ++ [last]) =
      store.missing descriptors ++ if (store.get? last.identity).isNone then [last] else [] := by
  unfold missing
  rw [List.filter_append, List.filter_cons, List.filter_nil]

/-- Each backend that is put is announced as unavailable, in their order. -/
theorem events_putAll (store : Store) (descriptors : List Descriptor) :
    (store.putAll descriptors).events =
      (descriptors.map fun descriptor => ⟨descriptor.identity, false⟩).foldl Feed.send
        store.events := by
  induction descriptors generalizing store with
  | nil => rfl
  | cons first rest ih => exact ih (store.put (fresh first))

/-- What becomes of a store from which some backends were missing. -/
structure Restores (listed : List Descriptor) (before after : Store) : Prop where
  /-- Each listed backend without a registration gets one, unavailable and as it is listed. -/
  created : ∀ descriptor ∈ listed, before.get? descriptor.identity = none →
    after.get? descriptor.identity = some ⟨descriptor, false, none⟩
  /-- Every registration stays as it was. -/
  kept : ∀ identity registration, before.get? identity = some registration →
    after.get? identity = some registration
  /-- Nothing else is registered. -/
  only : ∀ identity, before.get? identity = none → identity ∉ listed.map Descriptor.identity →
    after.get? identity = none
  /-- One event is sent for each backend that was missing, in the order of the list. -/
  sent : after.events =
    ((listed.filter fun descriptor => (before.get? descriptor.identity).isNone).map
      fun descriptor => ⟨descriptor.identity, false⟩).foldl Feed.send before.events

section Encodes

variable {store : Store} (encodes : store.options.registrationVersion?.isSome)

include encodes

/-- **What is registered after submissions**: what was, and for the other identities the first
backend of each. -/
theorem get?_submitAll (descriptors : List Descriptor) (identity : Identity) :
    (store.submitAll descriptors).get? identity =
      (store.get? identity).or
        ((descriptors.find? fun descriptor => descriptor.identity = identity).map fresh) := by
  induction descriptors generalizing store with
  | nil => simp [submitAll]
  | cons first rest ih =>
    have still : (store.upsert first).1.options.registrationVersion?.isSome := by
      rw [options_upsert]
      exact encodes
    show ((store.upsert first).1.submitAll rest).get? identity = _
    rw [ih still, get?_upsert encodes, Option.or_assoc]
    by_cases same : first.identity = identity
    · simp [same]
    · simp [same]

section Distinct

variable {descriptors : List Descriptor}
  (distinct : (descriptors.map Descriptor.identity).Nodup)

include distinct

/-- **Several submissions put what was missing into the store, and do nothing else.** -/
theorem submitAll_eq : store.submitAll descriptors = store.putAll (store.missing descriptors) := by
  obtain ⟨encodedAt, version⟩ := Option.isSome_iff_exists.mp encodes
  induction descriptors using List.reverseRecOn with
  | nil => rfl
  | append_singleton descriptors last ih =>
    rw [List.map_append, List.map_singleton, List.nodup_append] at distinct
    obtain ⟨earlier, -, different⟩ := distinct
    have new : last.identity ∉ descriptors.map Descriptor.identity :=
      fun known => different _ known _ (List.mem_singleton_self _) rfl
    have own : (store.submitAll descriptors).get? last.identity = store.get? last.identity :=
      get?_submitAll_of_notMem store new
    rw [submitAll_concat, upsert_eq, change, own, options_submitAll, version, missing_concat,
      putAll]
    rcases known : store.get? last.identity with _ | existing
    · show (store.submitAll descriptors).put (fresh last) = _
      rw [ih earlier, if_pos Option.isNone_none, List.foldl_append]
      rfl
    · show store.submitAll descriptors = _
      rw [ih earlier, if_neg (by simp), List.append_nil]
      rfl

/-- If identities are different, each backend that was missing is registered. -/
theorem get?_submitAll_of_missing {descriptor : Descriptor} (submitted : descriptor ∈ descriptors)
    (missing : store.get? descriptor.identity = none) :
    (store.submitAll descriptors).get? descriptor.identity = some (fresh descriptor) := by
  have found : descriptors.find? (fun other => other.identity = descriptor.identity) =
      some descriptor := by
    rcases first : descriptors.find? (fun other => other.identity = descriptor.identity)
      with _ | other
    · exact absurd (decide_eq_true rfl) (List.find?_eq_none.mp first descriptor submitted)
    · have same : other.identity = descriptor.identity := by simpa using List.find?_some first
      rw [first, List.inj_on_of_nodup_map distinct (List.mem_of_find?_eq_some first) submitted same]
  rw [get?_submitAll encodes, found, missing]
  rfl

/-- **Submissions restore what was missing.** -/
theorem restores_submitAll : Restores descriptors store (store.submitAll descriptors) := by
  constructor
  · intro descriptor submitted unregistered
    exact get?_submitAll_of_missing encodes distinct submitted unregistered
  · intro identity registration registered
    rw [get?_submitAll encodes, registered]
    rfl
  · intro identity unregistered unlisted
    rw [get?_submitAll_of_notMem store unlisted, unregistered]
  · rw [submitAll_eq encodes distinct, events_putAll]
    rfl

/-- **The same submissions once more do nothing.** -/
theorem submitAll_again :
    (store.submitAll descriptors).submitAll descriptors = store.submitAll descriptors := by
  have still : (store.submitAll descriptors).options.registrationVersion?.isSome := by
    rw [options_submitAll]
    exact encodes
  have complete : (store.submitAll descriptors).missing descriptors = [] := by
    refine List.filter_eq_nil_iff.mpr fun descriptor submitted missing => ?_
    rw [Option.isNone_iff_eq_none] at missing
    rcases before : store.get? descriptor.identity with _ | existing
    · rw [get?_submitAll_of_missing encodes distinct submitted before] at missing
      cases missing
    · rw [get?_submitAll encodes, before] at missing
      cases missing
  rw [submitAll_eq still distinct, complete]
  rfl

end Distinct

end Encodes

end Store

end Aggregation
