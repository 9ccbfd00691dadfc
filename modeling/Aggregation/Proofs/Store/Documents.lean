/-
**Registrations and their documents.**

A registration is kept under its identity, its document under a key made from the name
`version.group`. A store is `Mirrored` if the documents are those of the registrations and no
others. Different identities may have the same name, and so the same key: while two of them are
registered, one document stands for both, and whatever is written to one of them goes over the
other's document.

Otherwise nothing goes wrong. A store is `Apart` if registered identities have different names. As
long as it is so, every write keeps the documents in step, each touching its own document only; and
a store that is not so is out of step at once, since a document tells the group of its registration
(`group_of_encode?`). So the documents are in step throughout a run exactly if names are apart
throughout it (`mirrored_iff_apart`).
-/

import Aggregation.Proofs.Json.Printer
import Aggregation.Proofs.Store.Write

namespace Aggregation

/-! ### Names and keys -/

/-- Two identities of the same name are the same if their groups are. -/
theorem Identity.eq_of_backendName {first second : Identity}
    (name : first.backendName = second.backendName) (group : first.group = second.group) :
    first = second := by
  rcases first with ⟨ownGroup, ownVersion⟩
  rcases second with ⟨otherGroup, otherVersion⟩
  cases group
  unfold backendName at name
  rw [String.append_left_inj, String.append_left_inj] at name
  cases name
  rfl

namespace StorageOptions

/-- Keys differ as names do. -/
theorem key_inj (options : StorageOptions) (first second : Identity) :
    options.key first = options.key second ↔ first.backendName = second.backendName :=
  String.append_right_inj _

/-- **A document tells the group.** -/
theorem group_of_encode? {options : StorageOptions} {first second : Registration}
    {document : String}
    (name : first.descriptor.identity.backendName = second.descriptor.identity.backendName)
    (encoded : options.encode? first = some document)
    (same : options.encode? second = some document) :
    first.descriptor.identity.group = second.descriptor.identity.group := by
  unfold encode? at encoded same
  rcases encodes : options.registrationVersion? with _ | encodedAt
  · rw [encodes] at encoded
    cases encoded
  · rw [encodes, Option.map_some, Option.some.injEq] at encoded same
    have texts : (StorageOptions.document encodedAt first).chars =
        (StorageOptions.document encodedAt second).chars :=
      String.ofList_injective (encoded.trans same.symm)
    -- The texts agree up to the group, which is quoted in both.
    simp only [StorageOptions.document, Json.chars_object, Json.chars_string, Json.memberChars_cons,
      name, List.cons_append, List.append_assoc, List.cons.injEq, true_and,
      List.append_cancel_left_eq] at texts
    exact (Json.quoted_append_inj texts).1

end StorageOptions

namespace Store

/-! ### Documents in step -/

/-- The documents are those of the registrations. -/
structure Mirrored (store : Store) : Prop where
  /-- The document under the key of a registration is its encoding. -/
  kept : ∀ {identity registration}, store.get? identity = some registration →
    registration.descriptor.identity = identity ∧
      ∃ document, store.options.encode? registration = some document ∧
        store.raw? (store.options.key identity) = some document
  /-- A key with a document is the key of a registered identity. -/
  owned : ∀ {key document}, store.raw? key = some document →
    ∃ identity, (store.get? identity).isSome ∧ key = store.options.key identity

/-- Registered identities have different names. -/
def Apart (store : Store) : Prop :=
  ∀ first second, (store.get? first).isSome → (store.get? second).isSome →
    first.backendName = second.backendName → first = second

theorem mirrored_new (options : StorageOptions) : (new options).Mirrored where
  kept known := by cases known
  owned stored := by cases stored

/-- **Two identities of one name are one too many.** Their registrations would need different
documents under the same key. -/
theorem apart_of_mirrored {store : Store} (mirrored : store.Mirrored) : store.Apart := by
  intro first second known found name
  obtain ⟨registration, own⟩ := Option.isSome_iff_exists.mp known
  obtain ⟨other, its⟩ := Option.isSome_iff_exists.mp found
  obtain ⟨keyed, document, encoded, stored⟩ := mirrored.kept own
  obtain ⟨keyed', document', encoded', stored'⟩ := mirrored.kept its
  rw [(store.options.key_inj first second).mpr name, stored'] at stored
  cases stored
  refine Identity.eq_of_backendName name ?_
  rw [← keyed, ← keyed'] at name ⊢
  exact StorageOptions.group_of_encode? name encoded encoded'

theorem raw?_put {store : Store} {registration : Registration} {document : String}
    (encoded : store.options.encode? registration = some document) (key : String) :
    (store.put registration).raw? key =
      if key = store.options.key registration.descriptor.identity then some document
      else store.raw? key := by
  unfold raw? put
  rw [encoded]
  exact Table.get?_insert store.documents _ key document

theorem raw?_erase (store : Store) (dropped : Identity) (key : String) :
    (store.erase dropped).raw? key =
      if key = store.options.key dropped then none else store.raw? key :=
  Table.get?_erase store.documents _ key

/-- A registration that is kept brings its document along, and no other identity has its key. -/
theorem mirrored_put {store : Store} (mirrored : store.Mirrored) {registration : Registration}
    (encodes : store.options.registrationVersion?.isSome)
    (apart : (store.put registration).Apart) : (store.put registration).Mirrored := by
  obtain ⟨encodedAt, version⟩ := Option.isSome_iff_exists.mp encodes
  obtain ⟨document, encoded⟩ : ∃ document, store.options.encode? registration = some document := by
    unfold StorageOptions.encode?
    rw [version]
    exact ⟨_, rfl⟩
  have present : ((store.put registration).get? registration.descriptor.identity).isSome := by
    rw [get?_put, if_pos rfl]
    rfl
  refine ⟨fun {identity found} known => ?_, fun {key text} stored => ?_⟩
  · have registered : ((store.put registration).get? identity).isSome := by rw [known]; rfl
    rw [raw?_put encoded]
    rw [get?_put] at known
    split at known
    · next same =>
      cases known
      exact ⟨same.symm, document, encoded, by rw [same]; exact if_pos rfl⟩
    · next other =>
      obtain ⟨keyed, text, own, stored⟩ := mirrored.kept known
      refine ⟨keyed, text, own, ?_⟩
      show (if store.options.key identity = _ then _
        else store.raw? (store.options.key identity)) = _
      rw [if_neg, stored]
      exact fun same => other (apart _ _ registered present ((store.options.key_inj _ _).mp same))
  · rw [raw?_put encoded] at stored
    split at stored
    · next same => exact ⟨_, present, same⟩
    · obtain ⟨identity, known, same⟩ := mirrored.owned stored
      refine ⟨identity, ?_, same⟩
      rw [get?_put]
      split
      · rfl
      · exact known

/-- A registration that is dropped takes its document along, and no other identity has its key. -/
theorem mirrored_erase {store : Store} (mirrored : store.Mirrored) (apart : store.Apart)
    {dropped : Identity} (registered : (store.get? dropped).isSome) :
    (store.erase dropped).Mirrored := by
  refine ⟨fun {identity found} known => ?_, fun {key text} stored => ?_⟩
  · rw [get?_erase] at known
    split at known
    · cases known
    · next other =>
      obtain ⟨keyed, text, own, stored⟩ := mirrored.kept known
      refine ⟨keyed, text, own, ?_⟩
      rw [raw?_erase]
      show (if store.options.key identity = _ then _
        else store.raw? (store.options.key identity)) = _
      rw [if_neg, stored]
      refine fun same => other (apart _ _ ?_ registered ((store.options.key_inj _ _).mp same))
      rw [known]
      rfl
  · rw [raw?_erase] at stored
    split at stored
    · cases stored
    · next other =>
      obtain ⟨identity, known, same⟩ := mirrored.owned stored
      refine ⟨identity, ?_, same⟩
      rw [get?_erase, if_neg]
      · exact known
      · exact fun equal => other (by rw [same, equal])

/-- **While names are apart, a write keeps the documents in step.** -/
theorem mirrored_write {store : Store} (sound : store.Sound) (mirrored : store.Mirrored)
    (apart : store.Apart) {write : Write} (still : (store.write write).Apart) :
    (store.write write).Mirrored := by
  rw [write_eq sound] at still ⊢
  rcases change_cases sound write with same | ⟨registration, same, -, encodes⟩ | ⟨same, known⟩
  · rw [same]
    exact mirrored
  · rw [same] at still ⊢
    exact mirrored_put mirrored encodes still
  · rw [same]
    exact mirrored_erase mirrored apart known

/-- A write leaves the documents of other registered identities as they are. -/
def LeavesOthers (store : Store) (write : Write) : Prop :=
  ∀ identity, identity ≠ write.identity → (store.get? identity).isSome →
    (store.write write).raw? (store.options.key identity) =
      store.raw? (store.options.key identity)

theorem leavesOthers_of_mirrored {store : Store} (sound : store.Sound) (before : store.Mirrored)
    {write : Write} (after : (store.write write).Mirrored) : store.LeavesOthers write := by
  intro identity other registered
  obtain ⟨registration, known⟩ := Option.isSome_iff_exists.mp registered
  have still : (store.write write).get? identity = some registration := by
    rw [get?_write sound other, known]
  obtain ⟨-, document, encoded, stored⟩ := before.kept known
  obtain ⟨-, document', encoded', stored'⟩ := after.kept still
  rw [options_write sound] at encoded' stored'
  rw [stored, stored', ← encoded, ← encoded']

/-! ### Runs of writes -/

theorem writeAll_concat (store : Store) (writes : List Write) (write : Write) :
    store.writeAll (writes ++ [write]) = (store.writeAll writes).write write :=
  List.foldl_append

theorem sound_writeAll {store : Store} (sound : store.Sound) (writes : List Write) :
    (store.writeAll writes).Sound := by
  induction writes generalizing store with
  | nil => exact sound
  | cons write rest ih => exact ih (sound_write sound write)

theorem options_writeAll {store : Store} (sound : store.Sound) (writes : List Write) :
    (store.writeAll writes).options = store.options := by
  induction writes generalizing store with
  | nil => rfl
  | cons write rest ih => exact (ih (sound_write sound write)).trans (options_write sound write)

/-- While names are apart, a run keeps the documents in step. -/
theorem mirrored_writeAll {store : Store} (sound : store.Sound) (mirrored : store.Mirrored)
    {writes : List Write}
    (apart : ∀ earlier, earlier <+: writes → (store.writeAll earlier).Apart) :
    (store.writeAll writes).Mirrored := by
  induction writes generalizing store with
  | nil => exact mirrored
  | cons write rest ih =>
    have now : store.Apart := apart [] List.nil_prefix
    have next : (store.write write).Apart :=
      apart [write] (List.cons_prefix_cons.mpr ⟨rfl, List.nil_prefix⟩)
    exact ih (sound_write sound write) (mirrored_write sound mirrored now next)
      fun earlier before => apart (write :: earlier) (List.cons_prefix_cons.mpr ⟨rfl, before⟩)

/-- **When documents and registrations are in step.** In every run of writes on a new store, the
documents are those of the registrations in every state, and no write touches the document of
another identity, exactly if in no state two registered identities have the same name. -/
theorem mirrored_iff_apart (options : StorageOptions) (writes : List Write) :
    ((∀ earlier, earlier <+: writes → ((new options).writeAll earlier).Mirrored) ∧
        ∀ earlier write, earlier ++ [write] <+: writes →
          ((new options).writeAll earlier).LeavesOthers write) ↔
      ∀ earlier, earlier <+: writes → ((new options).writeAll earlier).Apart := by
  constructor
  · exact fun inStep earlier before => apart_of_mirrored (inStep.1 earlier before)
  · intro apart
    have inStep : ∀ earlier, earlier <+: writes → ((new options).writeAll earlier).Mirrored :=
      fun earlier before => mirrored_writeAll (sound_new options) (mirrored_new options)
        fun shorter within => apart shorter (within.trans before)
    refine ⟨inStep, fun earlier write before => ?_⟩
    have after := inStep _ before
    rw [writeAll_concat] at after
    exact leavesOthers_of_mirrored (sound_writeAll (sound_new options) earlier)
      (inStep earlier ((List.prefix_append earlier [write]).trans before)) after

/-- Two backends of one name are registered, and one of them is removed. -/
def colliding : List Write :=
  [.upsert ⟨⟨"b.c", "a"⟩, ⟨100, 9⟩, none⟩, .upsert ⟨⟨"c", "a.b"⟩, ⟨100, 9⟩, none⟩,
    .remove ⟨"c", "a.b"⟩]

/-- The removal takes the document of the other backend along. -/
theorem not_mirrored_colliding :
    ¬((new (.forAggregator "/registry" .json)).writeAll colliding).Mirrored := by
  intro mirrored
  have known : ((new (.forAggregator "/registry" .json)).writeAll colliding).get? ⟨"b.c", "a"⟩ =
      some ⟨⟨⟨"b.c", "a"⟩, ⟨100, 9⟩, none⟩, false, none⟩ := by decide +kernel
  have gone : ((new (.forAggregator "/registry" .json)).writeAll colliding).raw?
      (((new (.forAggregator "/registry" .json)).writeAll colliding).options.key ⟨"b.c", "a"⟩) =
        none := by decide +kernel
  obtain ⟨-, document, -, stored⟩ := mirrored.kept known
  rw [gone] at stored
  cases stored

end Store

end Aggregation
