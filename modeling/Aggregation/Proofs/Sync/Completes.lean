/-
**What the pass at the start comes to.**

The identities of a list that was put together by additions are different, so each entry is
submitted once, and each fails or not by itself. What the pass reports is then read off the store
and the gate from which it started: `Completes` says how, and `completes_startAll` that it is so for
every list, every store and every gate.
-/

import Aggregation.Proofs.Sync.Additions
import Aggregation.Proofs.Sync.Start

namespace Aggregation

namespace Submission

/-- What a pass at the start comes to, told by the store and the gate from which it started. -/
structure Completes (store : Store) (gate : Gate) (entries : List SyncEntry) (ended : Started) :
    Prop where
  /-- Each entry is submitted to the store, in their order, and nothing else is. -/
  submitted : ended.store = store.submitAll (entries.map SyncEntry.descriptor)
  /-- Each submission is counted once, as what it would be if it were the only one. -/
  answered : ended.observed.filterMap Observation.submission? =
    entries.map fun entry => outcome (store.upsert entry.descriptor).2
  /-- What is registered is in the order of the list. -/
  registered_sublist : ended.report.registered.Sublist (entries.map SyncEntry.identity)
  /-- What failed is in the order of the list. -/
  failed_sublist : (ended.report.failed.map Prod.fst).Sublist (entries.map SyncEntry.identity)
  /-- Nothing is registered and failed. -/
  disjoint : ended.report.registered.Disjoint (ended.report.failed.map Prod.fst)
  /-- Each entry is registered or failed. -/
  covers : ∀ entry ∈ entries,
    entry.identity ∈ ended.report.registered ∨ entry.identity ∈ ended.report.failed.map Prod.fst
  /-- An entry fails if the store held another priority or another service for it, or if its
  registration cannot be encoded. -/
  fails_iff : ∀ entry ∈ entries, entry.identity ∈ ended.report.failed.map Prod.fst ↔
    (∃ existing, store.get? entry.identity = some existing ∧
      (existing.descriptor.priority ≠ entry.descriptor.priority ∨
        existing.descriptor.service ≠ entry.descriptor.service)) ∨
    store.options.encode? (Store.fresh entry.descriptor) = none
  /-- The error that is reported of an entry is that with which the store refused it. -/
  reported : ∀ entry ∈ entries, ∀ error, (entry.identity, error) ∈ ended.report.failed ↔
    store.Refuses (.upsert entry.descriptor) error
  /-- What is reported as pending: of an open gate, the gated entries that were registered and for
  which it did not wait yet. -/
  pending : ended.report.pending =
    if gate.isClosed then []
    else (entries.filter fun entry => entry.gated ∧ entry.identity ∈ ended.report.registered ∧
      entry.identity ∉ gate.pending).map SyncEntry.identity
  /-- What is reported as pending is what the gate has come to wait for. -/
  newly : ∀ identity, identity ∈ ended.report.pending ↔
    identity ∈ ended.gate.pending ∧ identity ∉ gate.pending
  /-- The gate still waits for what it waited for. -/
  kept : ∀ identity ∈ gate.pending, identity ∈ ended.gate.pending
  /-- The gate does not come to wait for an entry that is external or failed. -/
  spared : ∀ entry ∈ entries,
    entry.gated = false ∨ entry.identity ∈ ended.report.failed.map Prod.fst →
      entry.identity ∈ ended.gate.pending → entry.identity ∈ gate.pending

namespace Passes

variable {store : Store} {gate : Gate} {entries : List SyncEntry} {state : Started}
  (passes : Passes store gate entries state)

include passes

theorem failed_identities : state.report.failed.map Prod.fst =
    (entries.filter fun entry => (entry.refusal? store).isSome).map SyncEntry.identity := by
  rw [passes.failed, List.map_filterMap, ← List.filterMap_eq_map, ← List.filterMap_eq_filter,
    List.filterMap_filterMap]
  refine List.filterMap_congr fun entry _ => ?_
  rcases refusal : entry.refusal? store with _ | error
  · simp [Option.guard, refusal]
  · simp [Option.guard, refusal]

section Distinct

variable (distinct : (entries.map SyncEntry.identity).Nodup) {entry : SyncEntry}
  (listed : entry ∈ entries)

include distinct listed

theorem mem_registered :
    entry.identity ∈ state.report.registered ↔ entry.refusal? store = none := by
  rw [passes.registered, SyncEntry.mem_map_filter distinct _ listed, Option.isNone_iff_eq_none]

theorem mem_failed_identities : entry.identity ∈ state.report.failed.map Prod.fst ↔
    (entry.refusal? store).isSome := by
  rw [passes.failed_identities, SyncEntry.mem_map_filter distinct _ listed]

theorem mem_failed (error : RegistrationError) :
    (entry.identity, error) ∈ state.report.failed ↔ entry.refusal? store = some error := by
  rw [passes.failed, List.mem_filterMap]
  constructor
  · rintro ⟨other, its, reported⟩
    obtain ⟨refused, refusal, pair⟩ := Option.map_eq_some_iff.mp reported
    obtain ⟨same, rfl⟩ := Prod.mk.injEq _ _ _ _ ▸ pair
    rw [← List.inj_on_of_nodup_map distinct its listed same, refusal]
  · intro refusal
    exact ⟨entry, listed, by rw [refusal]; rfl⟩

/-- The gate comes to wait for what it takes. -/
theorem mem_pending :
    entry.identity ∈ state.report.pending ↔ entry.isAwaited store gate = true := by
  rw [passes.pending, SyncEntry.mem_map_filter distinct _ listed]

end Distinct

/-- What is pending, told by what is registered. -/
theorem pending_eq (distinct : (entries.map SyncEntry.identity).Nodup) : state.report.pending =
    if gate.isClosed then []
    else (entries.filter fun entry => entry.gated ∧ entry.identity ∈ state.report.registered ∧
      entry.identity ∉ gate.pending).map SyncEntry.identity := by
  rw [passes.pending]
  split
  · next closed =>
    rw [List.map_eq_nil_iff, List.filter_eq_nil_iff]
    intro entry _ awaited
    obtain ⟨-, opened, -⟩ := SyncEntry.isAwaited_iff.mp awaited
    rw [opened] at closed
    cases closed
  · next opened =>
    refine congrArg _ (List.filter_congr fun entry listed => ?_)
    rw [Bool.eq_iff_iff, decide_eq_true_iff, passes.mem_registered distinct listed,
      SyncEntry.isAwaited_iff, SyncEntry.isSeeded_iff, and_assoc,
      and_iff_right (Bool.eq_false_iff.mpr opened)]

/-- What is reported as pending did not wait before. -/
theorem notMem_of_pending {identity : Identity} (reported : identity ∈ state.report.pending) :
    identity ∉ gate.pending := by
  rw [passes.pending] at reported
  obtain ⟨entry, selected, rfl⟩ := List.mem_map.mp reported
  exact (SyncEntry.isAwaited_iff.mp (List.mem_filter.mp selected).2).2.2

/-- **The whole pass.** -/
theorem completes (sound : store.Sound) (distinct : (entries.map SyncEntry.identity).Nodup) :
    Completes store gate entries state where
  submitted := passes.submitted
  answered := passes.answered
  registered_sublist := by
    rw [passes.registered]
    exact List.filter_sublist.map _
  failed_sublist := by
    rw [passes.failed_identities]
    exact List.filter_sublist.map _
  disjoint := by
    intro identity registered failed
    rw [passes.registered] at registered
    obtain ⟨entry, selected, rfl⟩ := List.mem_map.mp registered
    obtain ⟨listed, accepted⟩ := List.mem_filter.mp selected
    rw [passes.mem_failed_identities distinct listed] at failed
    rw [Option.isNone_iff_eq_none.mp accepted] at failed
    cases failed
  covers := by
    intro entry listed
    rw [passes.mem_registered distinct listed, passes.mem_failed_identities distinct listed]
    cases entry.refusal? store with
    | none => exact Or.inl rfl
    | some error => exact Or.inr rfl
  fails_iff := by
    intro entry listed
    rw [passes.mem_failed_identities distinct listed, SyncEntry.isSome_refusal?_iff sound]
  reported := by
    intro entry listed error
    rw [passes.mem_failed distinct listed]
    exact Store.refusal?_upsert store entry.descriptor error
  pending := passes.pending_eq distinct
  newly := by
    intro identity
    rw [passes.waits]
    constructor
    · intro reported
      exact ⟨Or.inr reported, passes.notMem_of_pending reported⟩
    · rintro ⟨either, new⟩
      exact either.resolve_left new
  kept := fun identity waited => (passes.waits identity).mpr (Or.inl waited)
  spared := by
    intro entry listed aside waits
    rcases (passes.waits _).mp waits with waited | reported
    · exact waited
    · -- What the gate takes gates, and was not refused.
      rw [passes.mem_pending distinct listed, SyncEntry.isAwaited_iff, SyncEntry.isSeeded_iff]
        at reported
      rw [passes.mem_failed_identities distinct listed] at aside
      obtain ⟨⟨gated, accepted⟩, -⟩ := reported
      rcases aside with external | failed
      · rw [gated] at external
        cases external
      · rw [accepted] at failed
        cases failed

end Passes

/-- **The pass at the start.** Whatever the options, whatever was done with a new store and a new
gate, and whatever was added to the list: the list has the first entry of each identity, and the
pass submits each of them once. Which of them fail, and with which error, depends on the store
before the pass only; the gate comes to wait for those of the gated ones among the others that it
did not wait for already, and for nothing more if it is closed. -/
theorem completes_startAll (options : StorageOptions) (operations : List Store.Operation)
    (name : String) (history : List Gate.Call) (additions : List SyncList.Addition) :
    let store := (Store.new options).operateAll operations
    let gate := (Gate.new name).callAll history
    let entries := (SyncList.empty.extendAll additions).entries
    entries = SyncList.firsts (additions.map SyncList.Addition.entry) ∧
      Completes store gate entries (startAll Store.upsert store gate entries) := by
  intro store gate entries
  have sound : store.Sound := Store.sound_operateAll (Store.sound_new options) operations
  have distinct : (entries.map SyncEntry.identity).Nodup := SyncList.nodup_extendAll additions
  refine ⟨SyncList.entries_extendAll additions, ?_⟩
  exact (passes_startAll store (Gate.ascending_callAll name history) distinct).completes sound
    distinct

/-- A backend that will be refused, two that gate, the first of them once more as an external one,
and an external one of its own. -/
def added : List SyncList.Addition :=
  [.gated ⟨⟨"", "v1"⟩, ⟨18000, 1⟩, none⟩, .gated ⟨⟨"apps", "v1"⟩, ⟨17800, 15⟩, none⟩,
    .external ⟨⟨"apps", "v1"⟩, ⟨1, 1⟩, some "service"⟩, .gated ⟨⟨"batch", "v1"⟩, ⟨17400, 15⟩, none⟩,
    .external ⟨⟨"metrics", "v1"⟩, ⟨100, 100⟩, some "service"⟩]

/-- The core was registered with another priority, and the gate already waits for one of the
others. -/
theorem completes_startAll_added :
    let store := (Store.new (.forAggregator "/registry" .json)).operateAll
      [.write (.upsert ⟨⟨"", "v1"⟩, ⟨1, 1⟩, none⟩)]
    let gate := (Gate.new Gate.completion).callAll [.seed [⟨"batch", "v1"⟩]]
    let entries := (SyncList.empty.extendAll added).entries
    let ended := startAll Store.upsert store gate entries
    Completes store gate entries ended ∧
      ended.report.registered = [⟨"apps", "v1"⟩, ⟨"batch", "v1"⟩, ⟨"metrics", "v1"⟩] ∧
      ended.report.failed =
        [(⟨"", "v1"⟩, .conflict ⟨"", "v1"⟩ (.priority ⟨1, 1⟩ ⟨18000, 1⟩))] ∧
      ended.report.pending = [⟨"apps", "v1"⟩] ∧
      ended.gate.pending = [⟨"apps", "v1"⟩, ⟨"batch", "v1"⟩] :=
  ⟨(completes_startAll _ _ _ _ added).2, by decide +kernel, by decide +kernel, by decide +kernel,
    by decide +kernel⟩

end Submission

end Aggregation
