/-
**Submissions to a store.**

A store that can encode accepts a submission unless another priority or another service is
registered under its identity (`accepts_iff`). Whether it does or not, what was registered before
stays as it was, and an identity that was not is registered now, unavailable (`get?_upsert`).

Whatever the options, a submission leaves other identities alone (`get?_upsert_of_ne`), and other
identities have no influence on how it is answered (`upsert_congr`).
-/

import Aggregation.Proofs.Store.Write

namespace Aggregation

namespace Store

/-- The store accepts a submission. -/
def Accepts (store : Store) (descriptor : Descriptor) : Prop :=
  ∃ outcome, (store.upsert descriptor).2 = .ok outcome

/-- The registration with which an accepted backend starts. -/
def fresh (descriptor : Descriptor) : Registration := ⟨descriptor, false, none⟩

theorem options_upsert (store : Store) (descriptor : Descriptor) :
    (store.upsert descriptor).1.options = store.options := by
  rw [upsert_eq, options_apply]

/-- A submission leaves the registrations of other identities alone. -/
theorem get?_upsert_of_ne (store : Store) {descriptor : Descriptor} {identity : Identity}
    (other : identity ≠ descriptor.identity) :
    (store.upsert descriptor).1.get? identity = store.get? identity := by
  rw [upsert_eq, change]
  rcases store.get? descriptor.identity with _ | existing
  · rcases store.options.registrationVersion? with _ | encodedAt
    · rfl
    · exact (get?_put store (fresh descriptor) identity).trans (if_neg other)
  · rfl

/-- What a submission is answered depends on the options and on its own identity only. -/
theorem upsert_congr {store other : Store} (options : store.options = other.options)
    {descriptor : Descriptor}
    (known : store.get? descriptor.identity = other.get? descriptor.identity) :
    (store.upsert descriptor).2 = (other.upsert descriptor).2 := by
  rcases found : other.get? descriptor.identity with _ | existing
  · have own : store.get? descriptor.identity = none := known.trans found
    simp only [upsert, own, found, persist, options]
    cases other.options.encode? ⟨descriptor, false, none⟩ <;> rfl
  · have own : store.get? descriptor.identity = some existing := known.trans found
    simp only [upsert, own, found]
    split
    · rfl
    · split <;> rfl

section Encodes

variable {store : Store} (encodes : store.options.registrationVersion?.isSome)

include encodes

/-- A submission is accepted unless something else is registered under its identity. -/
theorem accepts_iff (descriptor : Descriptor) :
    store.Accepts descriptor ↔
      ∀ registration, store.get? descriptor.identity = some registration →
        registration.descriptor.priority = descriptor.priority ∧
          registration.descriptor.service = descriptor.service := by
  obtain ⟨encodedAt, version⟩ := Option.isSome_iff_exists.mp encodes
  unfold Accepts
  rcases known : store.get? descriptor.identity with _ | existing
  · simp [upsert, known, persist_of_encodes _ version]
  · by_cases priority : existing.descriptor.priority = descriptor.priority
    · by_cases service : existing.descriptor.service = descriptor.service
      · simp [upsert, known, priority, service]
      · simp [upsert, known, priority, service]
    · simp [upsert, known, priority]

/-- A submission registers its backend unless something is registered under its identity. -/
theorem get?_upsert (descriptor : Descriptor) (identity : Identity) :
    (store.upsert descriptor).1.get? identity =
      (store.get? identity).or
        (if descriptor.identity = identity then some (fresh descriptor) else none) := by
  obtain ⟨encodedAt, version⟩ := Option.isSome_iff_exists.mp encodes
  rw [upsert_eq]
  rcases known : store.get? descriptor.identity with _ | existing
  · rw [change, known, version, apply, get?_put]
    by_cases same : descriptor.identity = identity
    · subst same
      simp [known, fresh]
    · have other : ¬identity = descriptor.identity := fun equal => same equal.symm
      simp [same, other]
  · rw [change, known, apply]
    by_cases same : descriptor.identity = identity
    · subst same
      simp [known]
    · simp [same]

end Encodes

end Store

end Aggregation
