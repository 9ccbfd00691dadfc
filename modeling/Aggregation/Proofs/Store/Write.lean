/-
**What a write does to a store.**

A store is written to by submissions, written conditions and removals. Whatever it is asked, a write
comes to one `Change`: none at all, one registration kept under its identity, persisted and
announced to the feed, or one identity dropped. `write_eq` says so for every store that is `Sound`:
its registrations stand under their own identities, and it has some only if its options can encode.
A new store is sound, and every write keeps it so, so what follows is read off the changes:

* `change_cases`: a write touches only the identity that it names;
* `events_apply`: it sends at most one event;
* `isAvailable_apply`: an identity becomes available only with an event that says so.
-/

import Aggregation.Store.Basic

namespace Aggregation

namespace Store

/-- A write on a store. -/
inductive Write where
  | upsert (descriptor : Descriptor)
  | setAvailable (identity : Identity) (available : Bool) (message : Option String)
  | remove (identity : Identity)

/-- The identity that a write names. -/
def Write.identity : Write → Identity
  | upsert descriptor => descriptor.identity
  | setAvailable identity _ _ => identity
  | remove identity => identity

/-- The store after a write, whether the write was accepted or not. -/
def write (store : Store) : Write → Store
  | .upsert descriptor => (store.upsert descriptor).1
  | .setAvailable identity available message => (store.setAvailable identity available message).1
  | .remove identity => (store.remove identity).1

/-- The store after several writes. -/
def writeAll (store : Store) (writes : List Write) : Store := writes.foldl write store

/-! ### Changes -/

/-- What a write comes to. -/
inductive Change where
  | none
  | keep (registration : Registration)
  | drop (identity : Identity)

/-- The event that a change sends. -/
def Change.event? : Change → Option StatusEvent
  | .keep registration => some ⟨registration.descriptor.identity, registration.available⟩
  | _ => Option.none

/-- The change that a write comes to. -/
def change (store : Store) : Write → Change
  | .upsert descriptor =>
    match store.get? descriptor.identity, store.options.registrationVersion? with
    | none, some _ => .keep ⟨descriptor, false, none⟩
    | _, _ => .none
  | .setAvailable identity available message =>
    match store.get? identity with
    | some existing => .keep ⟨existing.descriptor, available, message⟩
    | none => .none
  | .remove identity => if (store.get? identity).isSome then .drop identity else .none

/-- Keeps a registration under its identity, persists it and sends its condition. -/
def put (store : Store) (registration : Registration) : Store where
  options := store.options
  records := store.records.insert registration.descriptor.identity registration
  documents := (store.options.encode? registration).elim store.documents fun document =>
    store.documents.insert (store.options.key registration.descriptor.identity) document
  events := store.events.send ⟨registration.descriptor.identity, registration.available⟩

/-- Drops the registration of an identity with its document. -/
def erase (store : Store) (identity : Identity) : Store :=
  { store with
    records := store.records.erase identity
    documents := store.documents.erase (store.options.key identity) }

/-- The store after a change. -/
def apply (store : Store) : Change → Store
  | .none => store
  | .keep registration => store.put registration
  | .drop identity => store.erase identity

@[simp] theorem options_apply (store : Store) (change : Change) :
    (store.apply change).options = store.options := by
  cases change <;> rfl

theorem get?_put (store : Store) (registration : Registration) (identity : Identity) :
    (store.put registration).get? identity =
      if identity = registration.descriptor.identity then some registration
      else store.get? identity :=
  Table.get?_insert store.records _ identity registration

theorem get?_erase (store : Store) (dropped identity : Identity) :
    (store.erase dropped).get? identity =
      if identity = dropped then none else store.get? identity :=
  Table.get?_erase store.records dropped identity

/-- A change sends its event, if it has one. -/
theorem events_apply (store : Store) (change : Change) :
    (store.apply change).events = change.event?.elim store.events store.events.send := by
  cases change <;> rfl

/-- What a write comes to is decided by the options and the registrations. -/
theorem change_congr {store other : Store} (options : store.options = other.options)
    (records : store.records = other.records) (write : Write) :
    store.change write = other.change write := by
  have known (identity : Identity) : store.get? identity = other.get? identity := by
    unfold get?
    rw [records]
  cases write with
  | upsert descriptor => rw [change, change, known, options]
  | setAvailable identity available message => rw [change, change, known]
  | remove identity => rw [change, change, known]

theorem records_apply_congr {store other : Store} (records : store.records = other.records)
    (change : Change) : (store.apply change).records = (other.apply change).records := by
  cases change with
  | none => exact records
  | keep registration => simp only [apply, put, records]
  | drop identity => simp only [apply, erase, records]

/-! ### Sound stores -/

/-- Registrations stand under their own identities, and there are none that could not be persisted.
-/
structure Sound (store : Store) : Prop where
  keyed : ∀ {identity registration}, store.get? identity = some registration →
    registration.descriptor.identity = identity
  encodable : ∀ {identity registration}, store.get? identity = some registration →
    store.options.registrationVersion?.isSome

theorem sound_new (options : StorageOptions) : (new options).Sound where
  keyed known := by cases known
  encodable known := by cases known

/-- With an encode version, persisting stores the document under its key. -/
theorem persist_of_encodes {store : Store} {encodedAt : Identity} (registration : Registration)
    (encodes : store.options.registrationVersion? = some encodedAt) :
    store.persist registration =
      .ok { store with documents := (store.put registration).documents } := by
  unfold persist put StorageOptions.encode?
  rw [encodes]
  rfl

theorem upsert_eq (store : Store) (descriptor : Descriptor) :
    (store.upsert descriptor).1 = store.apply (store.change (.upsert descriptor)) := by
  rcases known : store.get? descriptor.identity with _ | existing
  · rcases encodes : store.options.registrationVersion? with _ | encodedAt
    · have refused : store.persist ⟨descriptor, false, none⟩ =
          .error (.unavailable (.noEncodeVersion StorageOptions.registrationGroup)) := by
        unfold persist StorageOptions.encode?
        rw [encodes]
        rfl
      simp only [upsert, change, known, encodes, refused]
      rfl
    · simp only [upsert, change, known, encodes, persist_of_encodes _ encodes]
      rfl
  · simp only [upsert, change, known]
    split
    · rfl
    · split <;> rfl

theorem setAvailable_eq {store : Store} (sound : store.Sound) (identity : Identity)
    (available : Bool) (message : Option String) :
    (store.setAvailable identity available message).1 =
      store.apply (store.change (.setAvailable identity available message)) := by
  rcases known : store.get? identity with _ | existing
  · simp only [setAvailable, change, known]
    rfl
  · obtain ⟨encodedAt, encodes⟩ := Option.isSome_iff_exists.mp (sound.encodable known)
    have recorded : (store.record
        ⟨existing.descriptor, available, message⟩).options.registrationVersion? = some encodedAt :=
      encodes
    simp only [setAvailable, change, known, persist_of_encodes _ recorded]
    rw [← sound.keyed known]
    rfl

theorem remove_eq {store : Store} (sound : store.Sound) (identity : Identity) :
    (store.remove identity).1 = store.apply (store.change (.remove identity)) := by
  rcases known : store.get? identity with _ | existing
  · simp only [remove, change, known]
    rfl
  · simp only [remove, change, known, sound.keyed known]
    rfl

/-- **What a write comes to is what it does.** -/
theorem write_eq {store : Store} (sound : store.Sound) (write : Write) :
    store.write write = store.apply (store.change write) := by
  cases write with
  | upsert descriptor => exact upsert_eq store descriptor
  | setAvailable identity available message =>
    exact setAvailable_eq sound identity available message
  | remove identity => exact remove_eq sound identity

/-- **What a write can come to.** It changes nothing, or keeps a registration under the identity
that it names, with options that can encode, or drops that identity, which is then registered. -/
theorem change_cases {store : Store} (sound : store.Sound) (write : Write) :
    store.change write = .none ∨
      (∃ registration, store.change write = .keep registration ∧
        registration.descriptor.identity = write.identity ∧
        store.options.registrationVersion?.isSome) ∨
      (store.change write = .drop write.identity ∧ (store.get? write.identity).isSome) := by
  cases write with
  | upsert descriptor =>
    simp only [change]
    split
    · next encodes => exact Or.inr (Or.inl ⟨_, rfl, rfl, by rw [encodes]; rfl⟩)
    · exact Or.inl rfl
  | setAvailable identity available message =>
    simp only [change]
    split
    · next existing known =>
      have named : existing.descriptor.identity = identity := sound.keyed known
      exact Or.inr (Or.inl ⟨_, rfl, named, sound.encodable known⟩)
    · exact Or.inl rfl
  | remove identity =>
    simp only [change]
    split
    · next known => exact Or.inr (Or.inr ⟨rfl, known⟩)
    · exact Or.inl rfl

theorem sound_put {store : Store} (sound : store.Sound) {registration : Registration}
    (encodes : store.options.registrationVersion?.isSome) : (store.put registration).Sound where
  keyed {identity found} known := by
    rw [get?_put] at known
    split at known
    · next same => cases known; exact same.symm
    · exact sound.keyed known
  encodable _ := encodes

theorem sound_erase {store : Store} (sound : store.Sound) (dropped : Identity) :
    (store.erase dropped).Sound where
  keyed {identity found} known := by
    rw [get?_erase] at known
    split at known
    · cases known
    · exact sound.keyed known
  encodable {identity found} known := by
    rw [get?_erase] at known
    split at known
    · cases known
    · exact sound.encodable known

/-- **Every write keeps a store sound.** -/
theorem sound_write {store : Store} (sound : store.Sound) (write : Write) :
    (store.write write).Sound := by
  rw [write_eq sound]
  rcases change_cases sound write with same | ⟨registration, same, -, encodes⟩ | ⟨same, -⟩
  · rw [same]
    exact sound
  · rw [same]
    exact sound_put sound encodes
  · rw [same]
    exact sound_erase sound write.identity

/-- A write leaves the registrations of other identities alone. -/
theorem get?_write {store : Store} (sound : store.Sound) {write : Write} {identity : Identity}
    (other : identity ≠ write.identity) :
    (store.write write).get? identity = store.get? identity := by
  rw [write_eq sound]
  rcases change_cases sound write with same | ⟨registration, same, named, -⟩ | ⟨same, -⟩
  · rw [same]
    rfl
  · rw [same, apply, get?_put, named, if_neg other]
  · rw [same, apply, get?_erase, if_neg other]

theorem options_write {store : Store} (sound : store.Sound) (write : Write) :
    (store.write write).options = store.options := by
  rw [write_eq sound, options_apply]

/-! ### Availability -/

/-- The identity is registered and was last written available. -/
def IsAvailable (store : Store) (identity : Identity) : Prop :=
  ∃ registration, store.get? identity = some registration ∧ registration.available = true

/-- **An identity becomes available only with an event that says so.** -/
theorem isAvailable_apply {store : Store} {change : Change} {identity : Identity}
    (available : (store.apply change).IsAvailable identity) :
    store.IsAvailable identity ∨ change.event? = some ⟨identity, true⟩ := by
  obtain ⟨registration, known, shown⟩ := available
  cases change with
  | none => exact Or.inl ⟨registration, known, shown⟩
  | keep kept =>
    rw [apply, get?_put] at known
    split at known
    · next same =>
      cases known
      exact Or.inr (by rw [Change.event?, same, shown])
    · exact Or.inl ⟨registration, known, shown⟩
  | drop dropped =>
    rw [apply, get?_erase] at known
    split at known
    · cases known
    · exact Or.inl ⟨registration, known, shown⟩

/-- An event that says available is sent with the condition that it reports. -/
theorem isAvailable_of_event {store : Store} {change : Change} {identity : Identity}
    (sent : change.event? = some ⟨identity, true⟩) : (store.apply change).IsAvailable identity := by
  cases change with
  | none => cases sent
  | keep kept =>
    rw [Change.event?, Option.some.injEq, StatusEvent.mk.injEq] at sent
    exact ⟨kept, by rw [apply, get?_put, if_pos sent.1.symm], sent.2⟩
  | drop dropped => cases sent

/-- The list of registrations holds what is registered. -/
theorem mem_list {store : Store} (sound : store.Sound) (registration : Registration) :
    registration ∈ store.list ↔
      store.get? registration.descriptor.identity = some registration := by
  unfold list Table.values
  rw [List.mem_mergeSort, List.mem_map]
  constructor
  · rintro ⟨⟨identity, value⟩, listed, rfl⟩
    have known : store.get? identity = some value := (Table.mem_entries_iff _ _ _).mp listed
    rw [sound.keyed known, known]
  · exact fun known => ⟨_, (Table.mem_entries_iff _ _ _).mpr known, rfl⟩

/-- An identity is available if its listed registration is. -/
theorem isAvailable_iff_list {store : Store} (sound : store.Sound) (identity : Identity) :
    store.IsAvailable identity ↔ ∃ registration ∈ store.list,
      (⟨registration.descriptor.identity, registration.available⟩ : StatusEvent) =
        ⟨identity, true⟩ := by
  constructor
  · rintro ⟨registration, known, shown⟩
    have own : registration.descriptor.identity = identity := sound.keyed known
    refine ⟨registration, (mem_list sound registration).mpr (own ▸ known), ?_⟩
    rw [own, shown]
  · rintro ⟨registration, listed, same⟩
    rw [StatusEvent.mk.injEq] at same
    exact ⟨registration, same.1 ▸ (mem_list sound registration).mp listed, same.2⟩

end Store

end Aggregation
