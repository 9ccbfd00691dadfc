/-
**What a store refuses, and that nothing comes of it.**

A submission is refused if another priority or another service is registered under its identity, or
if nothing is and the options cannot encode; a condition is refused if there is no registration to
write it to. A removal is never refused. `refusal?_eq_some_iff` says so for every sound store.
(A document is made of texts, numbers and truth values, which can always be printed: what keeps it
from being persisted is only that its version is missing.)

A condition is written to the record before the document, so a store with records that it cannot
encode would be left half written. There is no such store: one that starts empty stays sound
whatever is done with it (`sound_operateAll`), and a sound store that refuses a write is the same
after it as before (`write_of_refuses`), with its records, its documents, and what every receiver of
its feed holds.
-/

import Aggregation.Proofs.Store.Write

namespace Aggregation

namespace Store

/-! ### Refusals -/

/-- The error that an outcome is, if it is one. -/
def error? {α : Type} : Except RegistrationError α → Option RegistrationError
  | .error error => some error
  | .ok _ => none

/-- The error with which the store answers a write, if it refuses it. -/
def refusal? (store : Store) : Write → Option RegistrationError
  | .upsert descriptor => error? (store.upsert descriptor).2
  | .setAvailable identity available message =>
    error? (store.setAvailable identity available message).2
  | .remove _ => none

/-- Which writes are refused, and with which error. -/
inductive Refuses (store : Store) : Write → RegistrationError → Prop where
  | priority {descriptor : Descriptor} {existing : Registration}
    (known : store.get? descriptor.identity = some existing)
    (other : existing.descriptor.priority ≠ descriptor.priority) :
    Refuses store (.upsert descriptor) (.conflict descriptor.identity
      (.priority existing.descriptor.priority descriptor.priority))
  | service {descriptor : Descriptor} {existing : Registration}
    (known : store.get? descriptor.identity = some existing)
    (same : existing.descriptor.priority = descriptor.priority)
    (other : existing.descriptor.service ≠ descriptor.service) :
    Refuses store (.upsert descriptor) (.conflict descriptor.identity .service)
  | unencodable {descriptor : Descriptor} (missing : store.get? descriptor.identity = none)
    (version : store.options.registrationVersion? = none) :
    Refuses store (.upsert descriptor)
      (.unavailable (.noEncodeVersion StorageOptions.registrationGroup))
  | missing {identity : Identity} {available : Bool} {message : Option String}
    (missing : store.get? identity = none) :
    Refuses store (.setAvailable identity available message) (.notFound identity)

/-- Without an encode version nothing is persisted. -/
theorem persist_of_missing {store : Store} (registration : Registration)
    (version : store.options.registrationVersion? = none) :
    store.persist registration =
      .error (.unavailable (.noEncodeVersion StorageOptions.registrationGroup)) := by
  unfold persist StorageOptions.encode?
  rw [version]
  rfl

theorem refusal?_upsert (store : Store) (descriptor : Descriptor) (error : RegistrationError) :
    store.refusal? (.upsert descriptor) = some error ↔
      store.Refuses (.upsert descriptor) error := by
  constructor
  · intro refused
    rcases known : store.get? descriptor.identity with _ | existing
    · rcases version : store.options.registrationVersion? with _ | encodedAt
      · simp only [refusal?, upsert, known, persist_of_missing _ version, error?] at refused
        cases refused
        exact .unencodable known version
      · simp only [refusal?, upsert, known, persist_of_encodes _ version, error?] at refused
        cases refused
    · simp only [refusal?, upsert, known] at refused
      split at refused
      · next other =>
        cases refused
        exact .priority known other
      · next same =>
        split at refused
        · next other =>
          cases refused
          exact .service known (Decidable.not_not.mp same) other
        · cases refused
  · intro refused
    cases refused with
    | priority known other => simp [refusal?, upsert, known, other, error?]
    | service known same other => simp [refusal?, upsert, known, same, other, error?]
    | unencodable known version =>
      simp [refusal?, upsert, known, persist_of_missing _ version, error?]

theorem refusal?_setAvailable {store : Store} (sound : store.Sound) (identity : Identity)
    (available : Bool) (message : Option String) (error : RegistrationError) :
    store.refusal? (.setAvailable identity available message) = some error ↔
      store.Refuses (.setAvailable identity available message) error := by
  rcases known : store.get? identity with _ | existing
  · simp only [refusal?, setAvailable, known, error?, Option.some.injEq]
    constructor
    · rintro rfl
      exact .missing known
    · intro refused
      cases refused
      rfl
  · -- What is registered could be persisted, so the condition can be.
    obtain ⟨encodedAt, version⟩ := Option.isSome_iff_exists.mp (sound.encodable known)
    have recorded : (store.record
        ⟨existing.descriptor, available, message⟩).options.registrationVersion? = some encodedAt :=
      version
    simp only [refusal?, setAvailable, known, persist_of_encodes _ recorded, error?, reduceCtorEq,
      false_iff]
    intro refused
    cases refused with
    | missing unknown =>
      rw [known] at unknown
      cases unknown

/-- **When a write is refused.** -/
theorem refusal?_eq_some_iff {store : Store} (sound : store.Sound) (write : Write)
    (error : RegistrationError) :
    store.refusal? write = some error ↔ store.Refuses write error := by
  cases write with
  | upsert descriptor => exact refusal?_upsert store descriptor error
  | setAvailable identity available message =>
    exact refusal?_setAvailable sound identity available message error
  | remove identity =>
    constructor
    · intro refused
      cases refused
    · intro refused
      cases refused

/-- **A refused write comes to nothing.** -/
theorem write_of_refuses {store : Store} (sound : store.Sound) {write : Write}
    {error : RegistrationError} (refused : store.Refuses write error) :
    store.write write = store := by
  have nothing : store.change write = .none := by
    cases refused with
    | priority known other => simp only [change, known]
    | service known same other => simp only [change, known]
    | unencodable known version => simp only [change, known, version]
    | missing known => simp only [change, known]
  rw [write_eq sound, nothing]
  rfl

/-! ### Runs of operations -/

/-- Whatever may be done with a store: writing to it, and receiving the events of its feed. -/
inductive Operation where
  | write (write : Write)
  | subscribe
  | receive (receiver : Nat)
  | unsubscribe (receiver : Nat)

/-- The store after an operation. -/
def operate (store : Store) : Operation → Store
  | .write write => store.write write
  | .subscribe => store.subscribe.1
  | .receive receiver => { store with events := (store.events.receive receiver).2 }
  | .unsubscribe receiver => { store with events := store.events.unsubscribe receiver }

/-- The store after several operations. -/
def operateAll (store : Store) (operations : List Operation) : Store :=
  operations.foldl operate store

theorem sound_operate {store : Store} (sound : store.Sound) (operation : Operation) :
    (store.operate operation).Sound := by
  cases operation with
  | write write => exact sound_write sound write
  | subscribe => exact ⟨sound.keyed, sound.encodable⟩
  | receive receiver => exact ⟨sound.keyed, sound.encodable⟩
  | unsubscribe receiver => exact ⟨sound.keyed, sound.encodable⟩

theorem sound_operateAll {store : Store} (sound : store.Sound) (operations : List Operation) :
    (store.operateAll operations).Sound := by
  induction operations generalizing store with
  | nil => exact sound
  | cons operation rest ih => exact ih (sound_operate sound operation)

theorem options_operate {store : Store} (sound : store.Sound) (operation : Operation) :
    (store.operate operation).options = store.options := by
  cases operation with
  | write write => exact options_write sound write
  | subscribe | receive receiver | unsubscribe receiver => rfl

/-- A store keeps its options. -/
theorem options_operateAll {store : Store} (sound : store.Sound) (operations : List Operation) :
    (store.operateAll operations).options = store.options := by
  induction operations generalizing store with
  | nil => rfl
  | cons operation rest ih =>
    exact (ih (sound_operate sound operation)).trans (options_operate sound operation)

/-- **Refused writes leave the store untouched.** Whatever the options, and whatever was done with a
new store: when it refuses a write, it is the same store afterwards, in its registrations, its
documents, and what every receiver holds. A submission is refused for what is registered under its
identity, or because nothing can be encoded; a condition only for want of a registration, and never
because it could not be persisted. -/
theorem untouched_of_refused (options : StorageOptions) (operations : List Operation)
    {write : Write} {error : RegistrationError}
    (refused : ((new options).operateAll operations).refusal? write = some error) :
    ((new options).operateAll operations).operate (.write write) =
        (new options).operateAll operations ∧
      ((new options).operateAll operations).Refuses write error ∧
      ∀ outage, error = .unavailable outage → ∃ descriptor, write = .upsert descriptor := by
  have sound := sound_operateAll (sound_new options) operations
  have refuses := (refusal?_eq_some_iff sound write error).mp refused
  refine ⟨write_of_refuses sound refuses, refuses, fun outage same => ?_⟩
  cases refuses with
  | priority | service | missing => cases same
  | unencodable => exact ⟨_, rfl⟩

/-- Options from which the encode version of registrations was removed. -/
def versionless : StorageOptions :=
  let options := StorageOptions.forAggregator "/registry" .json
  { options with encodeVersions := options.encodeVersions.erase StorageOptions.registrationGroup }

/-- A backend is submitted, and found available, while a receiver looks on. -/
def submitted : List Operation :=
  [.subscribe, .write (.upsert ⟨⟨"g", "v1"⟩, ⟨100, 9⟩, none⟩),
    .write (.setAvailable ⟨"g", "v1"⟩ true none)]

/-- Submitted once more with a service, the backend stays as it is; where nothing can be encoded it
was never registered, and has no condition. -/
theorem untouched_of_refused_submitted :
    (let store := (new (.forAggregator "/registry" .json)).operateAll submitted
      let write := Write.upsert ⟨⟨"g", "v1"⟩, ⟨100, 9⟩, some "service"⟩
      store.refusal? write = some (.conflict ⟨"g", "v1"⟩ .service) ∧
        store.operate (.write write) = store) ∧
      let store := (new versionless).operateAll submitted
      let write := Write.setAvailable ⟨"g", "v1"⟩ false none
      store.refusal? write = some (.notFound ⟨"g", "v1"⟩) ∧
        store.operate (.write write) = store := by
  have conflict : ((new (.forAggregator "/registry" .json)).operateAll submitted).refusal?
      (.upsert ⟨⟨"g", "v1"⟩, ⟨100, 9⟩, some "service"⟩) =
        some (.conflict ⟨"g", "v1"⟩ .service) := by decide +kernel
  have missing : ((new versionless).operateAll submitted).refusal?
      (.setAvailable ⟨"g", "v1"⟩ false none) = some (.notFound ⟨"g", "v1"⟩) := by decide +kernel
  exact ⟨⟨conflict, (untouched_of_refused _ submitted conflict).1⟩,
    missing, (untouched_of_refused _ submitted missing).1⟩

end Store

end Aggregation
