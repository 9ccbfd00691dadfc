/-
**What is registered stays as it was submitted.**

A submission has one of three ends (`Ends`, `ends_upsert`): it creates a registration, finds itself
registered, or is refused. Which one it is depends on what the store answers for its identity, and
on nothing else of the store but the options.

No write changes the descriptor of a registration, and only a removal of its own identity ends it
(`descriptor?_operate`). So from its creation until then a descriptor is what the store answers and
lists, whatever else is done (`registered_until_removed`). The list is in strict order of
identities and has one entry for each of them that the store answers (`ascending_list`,
`mem_list_identities`).
-/

import Aggregation.Proofs.Identity
import Aggregation.Proofs.Sorting
import Aggregation.Proofs.Store.Refusal
import Aggregation.Proofs.Store.Upsert

namespace Aggregation

namespace Store

/-! ### How a submission ends -/

/-- The end that a submission comes to, by what is registered under its identity. -/
inductive Ends (store : Store) (descriptor : Descriptor) : Except RegistrationError Upserted → Prop
  | created (missing : store.get? descriptor.identity = none)
    (encodable : store.options.registrationVersion?.isSome) :
    Ends store descriptor (.ok .created)
  | unchanged {existing : Registration}
    (known : store.get? descriptor.identity = some existing)
    (same : existing.descriptor = descriptor) : Ends store descriptor (.ok .unchanged)
  | refused {error : RegistrationError} (refused : store.Refuses (.upsert descriptor) error) :
    Ends store descriptor (.error error)

section Ends

variable {store : Store} (sound : store.Sound) (descriptor : Descriptor)

include sound

/-- **A submission comes to one of its ends.** -/
theorem ends_upsert : store.Ends descriptor (store.upsert descriptor).2 := by
  rcases known : store.get? descriptor.identity with _ | existing
  · rcases version : store.options.registrationVersion? with _ | encodedAt
    · simp only [upsert, known, persist_of_missing _ version]
      exact .refused (.unencodable known version)
    · simp only [upsert, known, persist_of_encodes _ version]
      exact .created known (Option.isSome_of_eq_some version)
  · simp only [upsert, known]
    split
    · next other => exact .refused (.priority known other)
    · next priority =>
      split
      · next other => exact .refused (.service known (Decidable.not_not.mp priority) other)
      · next service =>
        refine .unchanged known ?_
        exact (Descriptor.mk.injEq ..).mpr
          ⟨sound.keyed known, Decidable.not_not.mp priority, Decidable.not_not.mp service⟩

/-- A submission creates a registration if there is none and it can be persisted. -/
theorem upsert_created_iff :
    (store.upsert descriptor).2 = .ok .created ↔
      store.get? descriptor.identity = none ∧
        (store.options.encode? (fresh descriptor)).isSome := by
  have ends := ends_upsert sound descriptor
  generalize (store.upsert descriptor).2 = outcome at ends ⊢
  rw [StorageOptions.encode?, Option.isSome_map]
  cases ends with
  | created missing encodable => simp [missing, encodable]
  | unchanged known same => simp [known]
  | refused refused =>
    cases refused with
    | priority known other | service known same other => simp [known]
    | unencodable missing version => simp [version]

/-- A submission changes nothing if it is what is registered. -/
theorem upsert_unchanged_iff :
    (store.upsert descriptor).2 = .ok .unchanged ↔
      ∃ existing, store.get? descriptor.identity = some existing ∧
        existing.descriptor = descriptor := by
  have ends := ends_upsert sound descriptor
  generalize (store.upsert descriptor).2 = outcome at ends ⊢
  cases ends with
  | created missing encodable => simp [missing]
  | unchanged known same => simp [known, same]
  | refused refused =>
    cases refused with
    | priority known other =>
      simpa [known] using fun same => other (congrArg Descriptor.priority same)
    | service known _ other =>
      simpa [known] using fun same => other (congrArg Descriptor.service same)
    | unencodable missing version => simp [missing]

/-- A submission conflicts with a registration of another priority or another service. -/
theorem upsert_conflict_iff :
    (∃ difference, (store.upsert descriptor).2 =
        .error (.conflict descriptor.identity difference)) ↔
      ∃ existing, store.get? descriptor.identity = some existing ∧
        (existing.descriptor.priority ≠ descriptor.priority ∨
          existing.descriptor.service ≠ descriptor.service) := by
  have ends := ends_upsert sound descriptor
  generalize (store.upsert descriptor).2 = outcome at ends ⊢
  cases ends with
  | created missing encodable => simp [missing]
  | unchanged known same => simp [known, same]
  | refused refused =>
    cases refused with
    | priority known other => simp [known, other]
    | service known same other => simp [known, other]
    | unencodable missing version => simp [missing]

end Ends

/-- A submission of what has a registration leaves the store as it is. -/
theorem upsert_of_known {store : Store} {descriptor : Descriptor} {existing : Registration}
    (known : store.get? descriptor.identity = some existing) :
    (store.upsert descriptor).1 = store := by
  rw [upsert_eq, change, known]
  rfl

/-! ### Descriptors over a run -/

/-- The descriptor registered for an identity. -/
def descriptor? (store : Store) (identity : Identity) : Option Descriptor :=
  (store.get? identity).map Registration.descriptor

/-- **An operation keeps every descriptor but that of the identity that it removes.** -/
theorem descriptor?_operate {store : Store} (sound : store.Sound) {operation : Operation}
    {identity : Identity} {descriptor : Descriptor}
    (known : store.descriptor? identity = some descriptor)
    (kept : operation ≠ .write (.remove identity)) :
    (store.operate operation).descriptor? identity = some descriptor := by
  cases operation with
  | subscribe | receive receiver | unsubscribe receiver => exact known
  | write write =>
    obtain ⟨existing, registered, same⟩ := Option.map_eq_some_iff.mp known
    show ((store.write write).get? identity).map Registration.descriptor = some descriptor
    by_cases other : identity = write.identity
    · cases write with
      | upsert submitted =>
        cases other
        rw [write, upsert_of_known registered]
        exact known
      | setAvailable named available message =>
        cases other
        have registered : store.get? named = some existing := registered
        rw [write, setAvailable_eq sound, change, registered]
        show ((store.put ⟨existing.descriptor, available, message⟩).get? named).map _ = _
        rw [get?_put, if_pos (sound.keyed registered).symm]
        exact congrArg some same
      | remove named =>
        cases other
        exact absurd rfl kept
    · rw [get?_write sound other]
      exact known

theorem descriptor?_operateAll {store : Store} (sound : store.Sound) {operations : List Operation}
    {identity : Identity} {descriptor : Descriptor}
    (known : store.descriptor? identity = some descriptor)
    (kept : .write (.remove identity) ∉ operations) :
    (store.operateAll operations).descriptor? identity = some descriptor := by
  induction operations generalizing store with
  | nil => exact known
  | cons operation rest ih =>
    rw [List.mem_cons, not_or] at kept
    exact ih (sound_operate sound operation)
      (descriptor?_operate sound known (Ne.symm kept.1)) kept.2

/-! ### The list -/

/-- **The list is in strict order of identities.** -/
theorem ascending_list {store : Store} (sound : store.Sound) :
    Identity.Ascending (store.list.map fun registration => registration.descriptor.identity) := by
  have entries : store.records.entries.map (fun entry => entry.2.descriptor.identity) =
      store.records.keys := by
    refine List.map_congr_left fun entry listed => ?_
    exact sound.keyed ((Table.mem_entries_iff store.records entry.1 entry.2).mp listed)
  have values : (store.records.values.map fun registration =>
      registration.descriptor.identity).Nodup := by
    rw [Table.values, List.map_map]
    exact entries ▸ store.records.distinct
  have sorted : store.list.Pairwise fun a b =>
      compare a.descriptor.identity b.descriptor.identity = .lt :=
    Sorting.pairwise_lt_mergeSort (fun registration : Registration =>
      registration.descriptor.identity) values
  exact List.pairwise_map.mpr sorted

/-- The list has an entry for each identity that the store answers. -/
theorem mem_list_identities {store : Store} (sound : store.Sound) (identity : Identity) :
    identity ∈ store.list.map (fun registration => registration.descriptor.identity) ↔
      (store.get? identity).isSome := by
  rw [List.mem_map]
  constructor
  · rintro ⟨registration, listed, rfl⟩
    rw [(mem_list sound registration).mp listed]
    rfl
  · intro known
    obtain ⟨registration, known⟩ := Option.isSome_iff_exists.mp known
    have own := sound.keyed known
    exact ⟨registration, (mem_list sound registration).mpr (own ▸ known), own⟩

/-- A descriptor is what the store answers for its identity, and the one that it lists there. -/
structure Shows (store : Store) (descriptor : Descriptor) : Prop where
  answered : store.descriptor? descriptor.identity = some descriptor
  listed : ∀ other, other ∈ store.list.map Registration.descriptor ∧
    other.identity = descriptor.identity ↔ other = descriptor

theorem shows_of_descriptor? {store : Store} (sound : store.Sound) {descriptor : Descriptor}
    (known : store.descriptor? descriptor.identity = some descriptor) :
    store.Shows descriptor := by
  refine ⟨known, fun other => ⟨?_, ?_⟩⟩
  · rintro ⟨member, same⟩
    obtain ⟨registration, listed, rfl⟩ := List.mem_map.mp member
    rw [descriptor?, ← same, (mem_list sound registration).mp listed] at known
    exact Option.some.inj known
  · rintro rfl
    obtain ⟨registration, registered, same⟩ := Option.map_eq_some_iff.mp known
    refine ⟨List.mem_map.mpr ⟨registration, (mem_list sound registration).mpr ?_, same⟩, rfl⟩
    rw [same]
    exact registered

/-- What a submission created is registered as it was submitted. -/
theorem descriptor?_upsert_of_created {store : Store} (sound : store.Sound)
    {descriptor : Descriptor} (created : (store.upsert descriptor).2 = .ok .created) :
    (store.upsert descriptor).1.descriptor? descriptor.identity = some descriptor := by
  obtain ⟨missing, encodable⟩ := (upsert_created_iff sound descriptor).mp created
  rw [StorageOptions.encode?, Option.isSome_map] at encodable
  rw [descriptor?, get?_upsert encodable, missing, if_pos rfl]
  rfl

/--
**Registered descriptors are immutable, and conflicts are exact.** Whatever was done with a new
store: what a submission creates is answered and listed as it was submitted until a removal of its
identity, whatever else is done. A submission creates, changes nothing or conflicts exactly by what
is registered under its identity, and one that changes nothing leaves the whole store as it is. The
list is in strict order of identities, holds what is answered for each, and names no others.
-/
theorem registered_until_removed (options : StorageOptions) (operations : List Operation)
    (descriptor : Descriptor) :
    let store := (new options).operateAll operations
    let submitted := store.upsert descriptor
    (submitted.2 = .ok .created → ∀ later, .write (.remove descriptor.identity) ∉ later →
        (submitted.1.operateAll later).Shows descriptor) ∧
      (submitted.2 = .ok .created ↔ store.get? descriptor.identity = none ∧
        (store.options.encode? (fresh descriptor)).isSome) ∧
      (submitted.2 = .ok .unchanged ↔ ∃ existing,
        store.get? descriptor.identity = some existing ∧ existing.descriptor = descriptor) ∧
      ((∃ difference, submitted.2 = .error (.conflict descriptor.identity difference)) ↔
        ∃ existing, store.get? descriptor.identity = some existing ∧
          (existing.descriptor.priority ≠ descriptor.priority ∨
            existing.descriptor.service ≠ descriptor.service)) ∧
      (submitted.2 = .ok .unchanged → submitted.1 = store) ∧
      Identity.Ascending (store.list.map fun registration => registration.descriptor.identity) ∧
      (∀ identity, identity ∈ store.list.map (fun registration =>
        registration.descriptor.identity) ↔ (store.get? identity).isSome) ∧
      ∀ registration ∈ store.list,
        store.get? registration.descriptor.identity = some registration := by
  intro store submitted
  have sound : store.Sound := sound_operateAll (sound_new options) operations
  refine ⟨fun created later kept => ?_, upsert_created_iff sound descriptor,
    upsert_unchanged_iff sound descriptor, upsert_conflict_iff sound descriptor,
    fun unchanged => ?_, ascending_list sound, mem_list_identities sound,
    fun registration => (mem_list sound registration).mp⟩
  · have soundAfter : submitted.1.Sound := sound_write sound (.upsert descriptor)
    exact shows_of_descriptor? (sound_operateAll soundAfter later)
      (descriptor?_operateAll soundAfter (descriptor?_upsert_of_created sound created) kept)
  · obtain ⟨existing, known, -⟩ := (upsert_unchanged_iff sound descriptor).mp unchanged
    exact upsert_of_known known

/-- A backend that is submitted again in another way, and found available, while another one comes
and goes. -/
theorem registered_until_removed_other :
    let store := new (.forAggregator "/registry" .json)
    let descriptor : Descriptor := ⟨⟨"g", "v1"⟩, ⟨100, 9⟩, none⟩
    let later : List Operation := [
      .write (.upsert ⟨⟨"h", "v1"⟩, ⟨100, 9⟩, none⟩),
      .write (.upsert ⟨⟨"g", "v1"⟩, ⟨200, 9⟩, some "service"⟩),
      .write (.setAvailable ⟨"g", "v1"⟩ true none),
      .write (.remove ⟨"h", "v1"⟩)]
    (store.upsert descriptor).2 = .ok .created ∧
      ((store.upsert descriptor).1.operateAll later).Shows descriptor := by
  intro store descriptor later
  have created : (store.upsert descriptor).2 = .ok .created := by decide +kernel
  refine ⟨created, (registered_until_removed (.forAggregator "/registry" .json) [] descriptor).1
    created later ?_⟩
  simp [later, descriptor]

end Store

end Aggregation
