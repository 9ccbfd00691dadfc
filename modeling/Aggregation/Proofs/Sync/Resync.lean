/-
**What a later pass restores.**

A later pass submits the list once more. Of the listed backends it registers those that have no
registration, whatever becomes of the others: one that is registered as it is listed is accepted and
stays as it is, and one that is registered otherwise is refused. After the pass nothing of the list
is missing, so the next one finds nothing to do (`restored_resync`).
-/

import Aggregation.Loops
import Aggregation.Proofs.Store.Refusal
import Aggregation.Proofs.Store.Submissions
import Aggregation.Proofs.Sync.Additions

namespace Aggregation

namespace Submission

/-- The pass submits the backends of the entries. -/
theorem store_resync (store : Store) (entries : List SyncEntry) :
    (resync Store.upsert store entries).1 =
      store.submitAll (entries.map SyncEntry.descriptor) := by
  induction entries generalizing store with
  | nil => rfl
  | cons entry rest ih => exact ih (store.upsert entry.descriptor).1

end Submission

namespace Aggregator

/-- A pass changes the store and counts its submissions. -/
theorem resync_eq (environment : Environment) (aggregator : Aggregator) :
    aggregator.resync environment =
      { aggregator with
        store := (environment.submission.resync aggregator.store aggregator.list.entries).1
        metrics := (aggregator.resync environment).metrics } := rfl

/-- **A pass restores what is missing.** For every store whose options can encode, whatever was done
with it, every list that was put together by additions and every gate: each listed backend without a
registration is registered, and announced once; every registration stays as it was, and so does all
else that the loops share, the gate with it. A second pass changes no more than the count of the
submissions. -/
theorem restored_resync {options : StorageOptions} (encodes : options.registrationVersion?.isSome)
    (operations : List Store.Operation) (additions : List SyncList.Addition)
    (network : Http.Network) (files : Directory) {aggregator : Aggregator}
    (stored : aggregator.store = (Store.new options).operateAll operations)
    (listed : aggregator.list.entries = (SyncList.empty.extendAll additions).entries) :
    let environment : Environment := ⟨Store.upsert, network, files⟩
    let first := aggregator.resync environment
    let second := first.resync environment
    Store.Restores (aggregator.list.entries.map SyncEntry.descriptor) aggregator.store
        first.store ∧
      first = { aggregator with store := first.store, metrics := first.metrics } ∧
      second = { first with metrics := second.metrics } := by
  intro environment first second
  have able : aggregator.store.options.registrationVersion?.isSome := by
    rw [stored, Store.options_operateAll (Store.sound_new options)]
    exact encodes
  have distinct : ((aggregator.list.entries.map SyncEntry.descriptor).map
      Descriptor.identity).Nodup := by
    rw [List.map_map, listed]
    exact SyncList.nodup_extendAll additions
  have after : first.store =
      aggregator.store.submitAll (aggregator.list.entries.map SyncEntry.descriptor) :=
    Submission.store_resync aggregator.store aggregator.list.entries
  refine ⟨?_, resync_eq environment aggregator, ?_⟩
  · rw [after]
    exact Store.restores_submitAll able distinct
  · -- Nothing is missing any more, so the list is submitted without effect.
    have again :
        (environment.submission.resync first.store first.list.entries).1 = first.store := by
      refine (Submission.store_resync first.store aggregator.list.entries).trans ?_
      rw [after]
      exact Store.submitAll_again able distinct
    calc second
        = { first with
            store := (environment.submission.resync first.store first.list.entries).1
            metrics := second.metrics } := resync_eq environment first
      _ = { first with metrics := second.metrics } := by rw [again]

/-- One backend was registered with another priority than it is listed with, one was registered as
listed and found available, and one was registered and taken out. A receiver looks on from then. -/
def drifted : Aggregator :=
  let store := (Store.new (.forAggregator "/registry" .json)).operateAll [
    .write (.upsert ⟨⟨"", "v1"⟩, ⟨1, 1⟩, none⟩),
    .write (.upsert ⟨⟨"apps", "v1"⟩, ⟨17800, 15⟩, none⟩),
    .write (.upsert ⟨⟨"batch", "v1"⟩, ⟨17400, 15⟩, none⟩),
    .write (.setAvailable ⟨"batch", "v1"⟩ true (some "found")),
    .write (.remove ⟨"apps", "v1"⟩), .subscribe]
  let list := SyncList.empty.extendAll [
    .external ⟨⟨"metrics", "v1"⟩, ⟨100, 100⟩, some "service"⟩,
    .gated ⟨⟨"", "v1"⟩, ⟨18000, 1⟩, none⟩, .gated ⟨⟨"apps", "v1"⟩, ⟨17800, 15⟩, none⟩,
    .gated ⟨⟨"batch", "v1"⟩, ⟨17400, 15⟩, none⟩]
  { new store ((Gate.new Gate.completion).seed [⟨"batch", "v1"⟩]).1 with list := list }

/-- A pass restores the one that was taken out and the one that was never registered; a second pass
leaves it at that. -/
theorem restored_resync_drifted :
    let environment : Environment := ⟨Store.upsert, Http.Network.offline, Table.empty⟩
    let first := drifted.resync environment
    Store.Restores (drifted.list.entries.map SyncEntry.descriptor) drifted.store first.store ∧
      first.store.get? ⟨"", "v1"⟩ = some ⟨⟨⟨"", "v1"⟩, ⟨1, 1⟩, none⟩, false, none⟩ ∧
      first.store.get? ⟨"apps", "v1"⟩ = some ⟨⟨⟨"apps", "v1"⟩, ⟨17800, 15⟩, none⟩, false, none⟩ ∧
      first.store.get? ⟨"batch", "v1"⟩ =
        some ⟨⟨⟨"batch", "v1"⟩, ⟨17400, 15⟩, none⟩, true, some "found"⟩ ∧
      (first.store.events.inbox? 0).map Inbox.queue =
        some [⟨⟨"metrics", "v1"⟩, false⟩, ⟨⟨"apps", "v1"⟩, false⟩] ∧
      first.gate = drifted.gate ∧ (first.resync environment).store = first.store := by
  intro environment first
  obtain ⟨restores, framed, again⟩ := restored_resync (by decide +kernel) _ _ Http.Network.offline
    Table.empty (show drifted.store = _ from rfl) (show drifted.list.entries = _ from rfl)
  refine ⟨restores, ?_, ?_, ?_, ?_, (congrArg Aggregator.gate framed).trans rfl,
    (congrArg Aggregator.store again).trans rfl⟩
  · decide +kernel
  · decide +kernel
  · decide +kernel
  · decide +kernel

end Aggregator

end Aggregation
