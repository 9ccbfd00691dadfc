/-
**What the pass at the start does, entry by entry.**

An entry comes to one of three things: it is refused and reported; it is registered and does not
gate; or it is registered and its identity is seeded into the gate, which takes it if it is open and
does not wait for it yet. `start_eq` has all three in one equation.

If identities are different, what an entry comes to is settled by the store and the gate from which
the pass starts: the entries before it are about other identities. `Passes` says so for the part of
the list that was submitted so far, and one entry more keeps it (`Passes.concat`). So the pass
leaves every earlier registration alone and adds what was missing (`get?_startEach`), and an open
gate waits for the gated entries that the store accepted (`mem_pending_startAll`).
-/

import Aggregation.Proofs.Gate.History
import Aggregation.Proofs.Store.Refusal
import Aggregation.Proofs.Store.Submissions
import Aggregation.Proofs.Sync

namespace Aggregation

/-! ### Seeding one identity -/

/-- How a submission ended, if that is what was observed. -/
def Observation.submission? : Observation → Option SubmissionOutcome
  | .submission outcome => some outcome
  | _ => none

namespace Gate

open Identity (Ascending)

/-- A gate takes an identity if it is open and does not wait for it yet. -/
theorem added_seed_singleton {gate : Gate} (ascending : Ascending gate.pending)
    (identity : Identity) :
    (gate.seed [identity]).2.1 = 1 ↔ gate.isClosed = false ∧ identity ∉ gate.pending := by
  by_cases closed : gate.isClosed = true
  · rw [seed_closed closed]
    simp [closed]
  · have opened : gate.isClosed = false := Bool.eq_false_iff.mpr closed
    rw [added_seed ascending opened]
    by_cases waits : identity ∈ gate.pending
    · simp [waits]
    · simp [waits, opened]

/-- After that the gate waits for what it did, and for the identity that it took. -/
theorem mem_seed_singleton {gate : Gate} (ascending : Ascending gate.pending)
    (identity other : Identity) :
    other ∈ (gate.seed [identity]).1.pending ↔
      other ∈ gate.pending ∨ other = identity ∧ (gate.seed [identity]).2.1 = 1 := by
  rw [added_seed_singleton ascending]
  by_cases closed : gate.isClosed = true
  · rw [seed_closed closed]
    simp [closed]
  · have opened : gate.isClosed = false := Bool.eq_false_iff.mpr closed
    rw [mem_seed opened, List.mem_singleton]
    constructor
    · rintro (rfl | waits)
      · by_cases waits : other ∈ gate.pending
        · exact Or.inl waits
        · exact Or.inr ⟨rfl, opened, waits⟩
      · exact Or.inl waits
    · rintro (waits | ⟨same, -⟩)
      · exact Or.inr waits
      · exact Or.inl same

/-- Seeding submits nothing. -/
theorem submissions_seed (gate : Gate) (identities : List Identity) :
    (gate.seed identities).2.2.filterMap Observation.submission? = [] := by
  unfold seed
  split <;> rfl

end Gate

/-! ### One entry -/

namespace SyncEntry

/-- The error with which a store refuses the backend of an entry, if it does. -/
def refusal? (store : Store) (entry : SyncEntry) : Option RegistrationError :=
  store.refusal? (.upsert entry.descriptor)

/-- Whether an entry is seeded into the gate: it gates and is not refused. -/
def isSeeded (store : Store) (entry : SyncEntry) : Bool :=
  entry.gated && (entry.refusal? store).isNone

/-- Whether a gate comes to wait for an entry: the entry is seeded into it, it is open, and it does
not wait for the entry already. -/
def isAwaited (store : Store) (gate : Gate) (entry : SyncEntry) : Bool :=
  entry.isSeeded store && !gate.isClosed && !gate.pending.contains entry.identity

/-- The gate after an entry. -/
def gateAfter (store : Store) (gate : Gate) (entry : SyncEntry) : Gate :=
  if entry.isSeeded store then (gate.seed [entry.identity]).1 else gate

/-- The identities of selected entries, with one entry more. -/
theorem map_filter_concat (selects : SyncEntry → Bool) (entries : List SyncEntry)
    (last : SyncEntry) :
    ((entries ++ [last]).filter selects).map identity =
      (entries.filter selects).map identity ++
        if selects last then [last.identity] else [] := by
  rw [List.filter_append, List.map_append, List.filter_cons, List.filter_nil]
  split <;> rfl

/-- Of different identities, that of an entry is among the selected ones if the entry is selected.
-/
theorem mem_map_filter {entries : List SyncEntry}
    (distinct : (entries.map SyncEntry.identity).Nodup) (selects : SyncEntry → Bool)
    {entry : SyncEntry} (listed : entry ∈ entries) :
    entry.identity ∈ (entries.filter selects).map identity ↔ selects entry = true := by
  rw [List.mem_map]
  constructor
  · rintro ⟨other, member, same⟩
    obtain ⟨its, selected⟩ := List.mem_filter.mp member
    rw [← List.inj_on_of_nodup_map distinct its listed same]
    exact selected
  · intro selected
    exact ⟨entry, List.mem_filter.mpr ⟨listed, selected⟩, rfl⟩

theorem refusal?_congr {store other : Store} {entry : SyncEntry}
    (answer : (store.upsert entry.descriptor).2 = (other.upsert entry.descriptor).2) :
    entry.refusal? store = entry.refusal? other :=
  congrArg Store.error? answer

theorem refusal?_eq_none_iff {store : Store} {entry : SyncEntry} :
    entry.refusal? store = none ↔ store.Accepts entry.descriptor := by
  show Store.error? (store.upsert entry.descriptor).2 = none ↔ ∃ outcome, _ = Except.ok outcome
  rcases (store.upsert entry.descriptor).2 with error | outcome
  · simp [Store.error?]
  · simp [Store.error?]

theorem isSeeded_iff {store : Store} {entry : SyncEntry} :
    entry.isSeeded store = true ↔ entry.gated = true ∧ entry.refusal? store = none := by
  simp [isSeeded]

theorem isAwaited_iff {store : Store} {gate : Gate} {entry : SyncEntry} :
    entry.isAwaited store gate = true ↔
      entry.isSeeded store = true ∧ gate.isClosed = false ∧ entry.identity ∉ gate.pending := by
  simp [isAwaited, and_assoc]

/-- A gate comes to wait for an entry that is seeded into it and that it takes. -/
theorem isAwaited_iff_added {store : Store} {gate : Gate}
    (ascending : Identity.Ascending gate.pending) (entry : SyncEntry) :
    entry.isAwaited store gate = true ↔
      entry.isSeeded store = true ∧ (gate.seed [entry.identity]).2.1 = 1 := by
  rw [Gate.added_seed_singleton ascending, isAwaited_iff]

theorem mem_gateAfter {store : Store} {gate : Gate} (ascending : Identity.Ascending gate.pending)
    (entry : SyncEntry) (identity : Identity) :
    identity ∈ (entry.gateAfter store gate).pending ↔
      identity ∈ gate.pending ∨ identity = entry.identity ∧ entry.isAwaited store gate = true := by
  rw [isAwaited_iff_added ascending, gateAfter]
  by_cases seeded : entry.isSeeded store = true
  · rw [if_pos seeded, Gate.mem_seed_singleton ascending, and_iff_right seeded]
  · rw [if_neg seeded]
    simp [seeded]

theorem isClosed_gateAfter (store : Store) (gate : Gate) (entry : SyncEntry) :
    (entry.gateAfter store gate).isClosed = gate.isClosed := by
  unfold gateAfter
  split
  · exact Gate.isClosed_seed gate _
  · rfl

theorem ascending_gateAfter {store : Store} {gate : Gate}
    (ascending : Identity.Ascending gate.pending) (entry : SyncEntry) :
    Identity.Ascending (entry.gateAfter store gate).pending := by
  unfold gateAfter
  split
  · exact Gate.ascending_seed ascending _
  · exact ascending

/-- **When an entry is refused**: another priority or another service is registered under its
identity, or its registration cannot be encoded. -/
theorem isSome_refusal?_iff {store : Store} (sound : store.Sound) (entry : SyncEntry) :
    (entry.refusal? store).isSome ↔
      (∃ existing, store.get? entry.identity = some existing ∧
        (existing.descriptor.priority ≠ entry.descriptor.priority ∨
          existing.descriptor.service ≠ entry.descriptor.service)) ∨
      store.options.encode? (Store.fresh entry.descriptor) = none := by
  rw [Option.isSome_iff_exists, refusal?]
  simp only [Store.refusal?_upsert]
  constructor
  · rintro ⟨error, refused⟩
    cases refused with
    | priority known other => exact Or.inl ⟨_, known, Or.inl other⟩
    | service known same other => exact Or.inl ⟨_, known, Or.inr other⟩
    | unencodable missing version =>
      refine Or.inr ?_
      rw [StorageOptions.encode?, version]
      rfl
  · rintro (⟨existing, known, other⟩ | unencodable)
    · by_cases priority : existing.descriptor.priority = entry.descriptor.priority
      · exact ⟨_, .service known priority (other.resolve_left fun changed => changed priority)⟩
      · exact ⟨_, .priority known priority⟩
    · rw [StorageOptions.encode?, Option.map_eq_none_iff] at unencodable
      rcases known : store.get? entry.descriptor.identity with _ | existing
      · exact ⟨_, .unencodable known unencodable⟩
      · -- A sound store holds nothing that it could not encode.
        have encodes := sound.encodable known
        rw [unencodable] at encodes
        cases encodes

end SyncEntry

namespace Submission

open Identity (Ascending)

/-- **What an entry comes to.** It is registered or reported with its error, and if it is to gate
and is registered, its identity is seeded into the gate. -/
theorem start_eq (state : Started) (entry : SyncEntry) :
    start Store.upsert state entry =
      { store := (state.store.upsert entry.descriptor).1
        gate := entry.gateAfter state.store state.gate
        report :=
          { registered := state.report.registered ++
              if (entry.refusal? state.store).isNone then [entry.identity] else []
            pending := state.report.pending ++
              if entry.isSeeded state.store ∧ (state.gate.seed [entry.identity]).2.1 = 1
              then [entry.identity] else []
            failed := state.report.failed ++
              ((entry.refusal? state.store).map fun error => (entry.identity, error)).toList }
        observed := state.observed ++
          [.submission (outcome (state.store.upsert entry.descriptor).2)] ++
          if entry.isSeeded state.store then (state.gate.seed [entry.identity]).2.2 else [] } := by
  unfold start submit SyncEntry.gateAfter SyncEntry.identity
  rcases submitted : state.store.upsert entry.descriptor with ⟨store, error | upserted⟩
  · have refusal : entry.refusal? state.store = some error := by
      show Store.error? (state.store.upsert entry.descriptor).2 = _
      rw [submitted]
      rfl
    simp [SyncEntry.isSeeded, refusal]
  · have refusal : entry.refusal? state.store = none := by
      show Store.error? (state.store.upsert entry.descriptor).2 = _
      rw [submitted]
      rfl
    by_cases gated : entry.gated = true
    · by_cases taken : (state.gate.seed [entry.descriptor.identity]).2.1 = 1
      · simp [SyncEntry.isSeeded, refusal, gated, taken]
      · simp [SyncEntry.isSeeded, refusal, gated, taken]
    · simp [SyncEntry.isSeeded, refusal, gated]

/-- Submits some entries to the store itself. -/
abbrev startEach (state : Started) (entries : List SyncEntry) : Started :=
  entries.foldl (start Store.upsert) state

/-- The pass submits the backends of the entries. -/
theorem store_startEach (state : Started) (entries : List SyncEntry) :
    (startEach state entries).store =
      state.store.submitAll (entries.map SyncEntry.descriptor) := by
  induction entries generalizing state with
  | nil => rfl
  | cons entry rest ih =>
    refine (ih (start Store.upsert state entry)).trans ?_
    rw [start_eq]
    rfl

section Encodes

variable {state : Started} (encodes : state.store.options.registrationVersion?.isSome)

include encodes

/-- **What is registered after the pass**: what was, and for the other identities the first entry of
each. -/
theorem get?_startEach (entries : List SyncEntry) (identity : Identity) :
    (startEach state entries).store.get? identity =
      (state.store.get? identity).or
        ((entries.find? fun entry => entry.identity = identity).map fun entry =>
          Store.fresh entry.descriptor) := by
  rw [store_startEach, Store.get?_submitAll encodes, List.find?_map, Option.map_map]
  rfl

/-- If identities are different, each entry that was missing is registered. -/
theorem get?_startEach_of_missing {entries : List SyncEntry}
    (distinct : (entries.map SyncEntry.identity).Nodup) {entry : SyncEntry}
    (listed : entry ∈ entries) (missing : state.store.get? entry.identity = none) :
    (startEach state entries).store.get? entry.identity =
      some (Store.fresh entry.descriptor) := by
  rw [store_startEach]
  refine Store.get?_submitAll_of_missing encodes ?_ (List.mem_map_of_mem listed) missing
  rw [List.map_map]
  exact distinct

end Encodes

/-! ### The entries so far -/

/-- What became of the entries that a pass has submitted so far, as the store and the gate from
which it started decide it. -/
structure Passes (store : Store) (gate : Gate) (entries : List SyncEntry) (state : Started) :
    Prop where
  submitted : state.store = store.submitAll (entries.map SyncEntry.descriptor)
  answered : state.observed.filterMap Observation.submission? =
    entries.map fun entry => outcome (store.upsert entry.descriptor).2
  registered : state.report.registered =
    (entries.filter fun entry => (entry.refusal? store).isNone).map SyncEntry.identity
  failed : state.report.failed =
    entries.filterMap fun entry => (entry.refusal? store).map fun error => (entry.identity, error)
  pending : state.report.pending =
    (entries.filter fun entry => entry.isAwaited store gate).map SyncEntry.identity
  waits : ∀ identity, identity ∈ state.gate.pending ↔
    identity ∈ gate.pending ∨ identity ∈ state.report.pending
  closed : state.gate.isClosed = gate.isClosed
  ascending : Ascending state.gate.pending

theorem passes_nil (store : Store) {gate : Gate} (ascending : Ascending gate.pending) :
    Passes store gate [] ⟨store, gate, ⟨[], [], []⟩, []⟩ where
  submitted := rfl
  answered := rfl
  registered := rfl
  failed := rfl
  pending := rfl
  waits _ := (or_iff_left List.not_mem_nil).symm
  closed := rfl
  ascending := ascending

namespace Passes

variable {store : Store} {gate : Gate} {entries : List SyncEntry} {state : Started}
  (passes : Passes store gate entries state)

include passes

/-- An entry of another identity is answered as it would be at the start. -/
theorem answer_eq {entry : SyncEntry}
    (new : entry.identity ∉ entries.map SyncEntry.identity) :
    (state.store.upsert entry.descriptor).2 = (store.upsert entry.descriptor).2 := by
  rw [passes.submitted]
  refine Store.upsert_submitAll store fun listed => new ?_
  rw [List.map_map] at listed
  exact listed

/-- The gate waits for the identity of another entry if it did so at the start. -/
theorem waits_iff {entry : SyncEntry} (new : entry.identity ∉ entries.map SyncEntry.identity) :
    entry.identity ∈ state.gate.pending ↔ entry.identity ∈ gate.pending := by
  rw [passes.waits]
  refine or_iff_left fun taken => new ?_
  rw [passes.pending] at taken
  exact (List.filter_sublist.map _).subset taken

/-- The gate takes another entry if it would take it at the start. -/
theorem isAwaited_eq {entry : SyncEntry}
    (new : entry.identity ∉ entries.map SyncEntry.identity) :
    entry.isAwaited state.store state.gate = entry.isAwaited store gate := by
  rw [Bool.eq_iff_iff, SyncEntry.isAwaited_iff, SyncEntry.isSeeded_iff, SyncEntry.isAwaited_iff,
    SyncEntry.isSeeded_iff, SyncEntry.refusal?_congr (passes.answer_eq new), passes.closed,
    passes.waits_iff new]

/-- **One entry more.** -/
theorem concat {entry : SyncEntry}
    (new : entry.identity ∉ entries.map SyncEntry.identity) :
    Passes store gate (entries ++ [entry]) (start Store.upsert state entry) := by
  have answer := passes.answer_eq new
  have refusal := SyncEntry.refusal?_congr answer
  have awaited : entry.isAwaited state.store state.gate = true ↔
      entry.isSeeded state.store = true ∧ (state.gate.seed [entry.identity]).2.1 = 1 :=
    SyncEntry.isAwaited_iff_added passes.ascending entry
  rw [passes.isAwaited_eq new] at awaited
  -- Seeding the gate submits nothing.
  have silent : (if entry.isSeeded state.store then (state.gate.seed [entry.identity]).2.2
      else []).filterMap Observation.submission? = [] := by
    split
    · exact Gate.submissions_seed state.gate _
    · rfl
  rw [start_eq]
  constructor
  · rw [passes.submitted, List.map_append, List.map_singleton, Store.submitAll_concat]
  · rw [List.filterMap_append, silent, List.append_nil, List.filterMap_append, passes.answered,
      answer, List.map_append]
    rfl
  · rw [passes.registered, refusal, SyncEntry.map_filter_concat]
  · rw [passes.failed, refusal, List.filterMap_append, List.filterMap_cons, List.filterMap_nil]
    rcases entry.refusal? store with _ | error
    · rfl
    · rfl
  · rw [passes.pending, SyncEntry.map_filter_concat]
    simp only [awaited]
  · intro identity
    show identity ∈ (entry.gateAfter state.store state.gate).pending ↔ _
    rw [SyncEntry.mem_gateAfter passes.ascending, passes.isAwaited_eq new, awaited, List.mem_append,
      List.mem_ite_nil_right, List.mem_singleton, ← or_assoc, ← passes.waits, and_comm]
  · exact (SyncEntry.isClosed_gateAfter state.store state.gate entry).trans passes.closed
  · exact SyncEntry.ascending_gateAfter passes.ascending entry

end Passes

/-- The pass over different identities. -/
theorem passes_startAll (store : Store) {gate : Gate}
    (ascending : Ascending gate.pending) {entries : List SyncEntry}
    (distinct : (entries.map SyncEntry.identity).Nodup) :
    Passes store gate entries (startAll Store.upsert store gate entries) := by
  induction entries using List.reverseRecOn with
  | nil => exact passes_nil store ascending
  | append_singleton entries last ih =>
    rw [List.map_append, List.map_singleton, List.nodup_append] at distinct
    obtain ⟨earlier, -, different⟩ := distinct
    have new : last.identity ∉ entries.map SyncEntry.identity :=
      fun known => different _ known _ (List.mem_singleton_self _) rfl
    unfold startAll
    rw [List.foldl_append]
    exact (ih earlier).concat new

/-- **What an open gate waits for after the pass**: also for the gated entries that the store
accepted. -/
theorem mem_pending_startAll (store : Store) {gate : Gate} (ascending : Ascending gate.pending)
    (opened : gate.isClosed = false) {entries : List SyncEntry}
    (distinct : (entries.map SyncEntry.identity).Nodup) (identity : Identity) :
    identity ∈ (startAll Store.upsert store gate entries).gate.pending ↔
      identity ∈ gate.pending ∨ ∃ entry ∈ entries, entry.gated = true ∧
        entry.identity = identity ∧ store.Accepts entry.descriptor := by
  have passes := passes_startAll store ascending distinct
  rw [passes.waits]
  by_cases waits : identity ∈ gate.pending
  · simp [waits]
  · refine or_congr_right ?_
    rw [passes.pending, List.mem_map]
    refine exists_congr fun entry => ?_
    rw [List.mem_filter, SyncEntry.isAwaited_iff, SyncEntry.isSeeded_iff,
      SyncEntry.refusal?_eq_none_iff, and_assoc]
    refine and_congr_right fun _ => ?_
    constructor
    · rintro ⟨⟨⟨gated, accepted⟩, -⟩, same⟩
      exact ⟨gated, same, accepted⟩
    · rintro ⟨gated, same, accepted⟩
      exact ⟨⟨⟨gated, accepted⟩, opened, same ▸ waits⟩, same⟩

end Submission

end Aggregation
