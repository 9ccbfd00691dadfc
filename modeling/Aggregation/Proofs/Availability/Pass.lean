/-
**What an availability pass leaves behind.**

A pass lists the registrations, observes each of them, and then records the conditions that it
observed, one after the other. In the meantime other tasks may remove registrations, so a pass is a
run of steps: conditions that are recorded in the order of the list, with any removals between them.
Each backend may be observed under circumstances of its own, since addresses can be reloaded and
upstreams need not answer alike.

* `Step.get?_on` and `Step.event?_cases`: a step touches the identity that it names, and announces
  only a recorded change of what is still there;
* `get?_run_of_unnamed`, `get?_run_of_removed`: so do runs, and nothing is made again by them;
* `IsPass.get?_run`: what a pass leaves in the store, for every identity;
* `IsPass.mem_sent`, `IsPass.ascending_sent`: which events it sends, and in which order;
* `IsPass.again`: a second pass that observes the same changes nothing.

`checkAll_exact` puts this together for every store that was made from a new one.
-/

import Aggregation.Proofs.Availability
import Aggregation.Proofs.Store.Registered

namespace Aggregation

/-- A registration with a condition that was observed of it. -/
def Registration.noted (registration : Registration) (condition : Condition) : Registration :=
  ⟨registration.descriptor, condition.available, condition.message⟩

/-- Noting the condition that a registration has makes no difference. -/
theorem Registration.noted_eq_iff (registration : Registration) (condition : Condition) :
    registration.noted condition = registration ↔
      registration.available = condition.available ∧
        registration.message = condition.message := by
  obtain ⟨descriptor, available, message⟩ := registration
  simp [noted, eq_comm]

namespace Prober

/-! ### Steps of a pass -/

/-- What happens to the store during a pass: a condition is recorded, or another task removes a
registration. -/
inductive Step where
  | record (seen : Registration × Condition)
  | remove (identity : Identity)
deriving DecidableEq

namespace Step

/-- The identity that a step names. -/
def identity : Step → Identity
  | record seen => seen.1.descriptor.identity
  | remove identity => identity

/-- What a step records. -/
def recorded? : Step → Option (Registration × Condition)
  | record seen => some seen
  | remove _ => none

/-- The store after a step. -/
def on (store : Store) : Step → Store
  | record seen => (Prober.record store seen.1 seen.2).1
  | remove identity => (store.remove identity).1

/-- What a step comes to. -/
def change (store : Store) : Step → Store.Change
  | record (registration, condition) =>
    if registration.noted condition = registration then .none
    else store.change (.setAvailable registration.descriptor.identity condition.available
      condition.message)
  | remove identity => store.change (.remove identity)

variable {store : Store} {identity : Identity}

/-- **What a step comes to is what it does.** -/
theorem on_eq (sound : store.Sound) (step : Step) :
    step.on store = store.apply (step.change store) := by
  cases step with
  | record seen =>
    obtain ⟨registration, condition⟩ := seen
    simp only [on, change, Prober.record, Registration.noted_eq_iff]
    split
    · rfl
    · exact Store.setAvailable_eq sound _ _ _
  | remove identity => exact Store.remove_eq sound identity

theorem on_of_noted {registration : Registration} {condition : Condition}
    (same : registration.noted condition = registration) :
    (record (registration, condition)).on store = store := by
  rw [Registration.noted_eq_iff] at same
  simp only [on, Prober.record, if_pos same]

/-- A step does nothing, or makes the write that it names. -/
theorem on_cases (store : Store) (step : Step) :
    step.on store = store ∨ ∃ write : Store.Write,
      write.identity = step.identity ∧ step.on store = store.write write := by
  cases step with
  | record seen =>
    obtain ⟨registration, condition⟩ := seen
    by_cases same : registration.noted condition = registration
    · exact .inl (on_of_noted same)
    · refine .inr ⟨.setAvailable registration.descriptor.identity condition.available
        condition.message, rfl, ?_⟩
      rw [Registration.noted_eq_iff] at same
      simp only [on, Prober.record, if_neg same]
      rfl
  | remove identity => exact .inr ⟨.remove identity, rfl, rfl⟩

theorem sound_on (sound : store.Sound) (step : Step) : (step.on store).Sound := by
  rcases step.on_cases store with same | ⟨write, -, same⟩
  · rwa [same]
  · rw [same]
    exact Store.sound_write sound write

/-- A step leaves the registrations of other identities alone. -/
theorem get?_on (sound : store.Sound) {step : Step} (other : step.identity ≠ identity) :
    (step.on store).get? identity = store.get? identity := by
  rcases step.on_cases store with same | ⟨write, named, same⟩
  · rw [same]
  · rw [same]
    exact Store.get?_write sound (named ▸ other.symm)

/-- No step makes a registration. -/
theorem get?_on_of_none (sound : store.Sound) (missing : store.get? identity = none) (step : Step) :
    (step.on store).get? identity = none := by
  by_cases named : step.identity = identity
  · subst named
    have nothing : step.change store = .none := by
      cases step with
      | record seen =>
        have missing : store.get? seen.1.descriptor.identity = none := missing
        simp only [change, Store.change, missing, ite_self]
      | remove dropped =>
        have missing : store.get? dropped = none := missing
        simp [change, Store.change, missing]
    rw [on_eq sound, nothing]
    exact missing
  · rwa [get?_on sound named]

theorem get?_on_remove (sound : store.Sound) (identity : Identity) :
    ((remove identity).on store).get? identity = none := by
  rw [on_eq sound, change, Store.change]
  split
  · rw [Store.apply, Store.get?_erase, if_pos rfl]
  · next missing => exact Option.not_isSome_iff_eq_none.mp missing

/-- What is still there as it was listed has the recorded condition afterwards. -/
theorem get?_on_record (sound : store.Sound) {registration : Registration}
    (known : store.get? registration.descriptor.identity = some registration)
    (condition : Condition) :
    ((record (registration, condition)).on store).get? registration.descriptor.identity =
      some (registration.noted condition) := by
  by_cases same : registration.noted condition = registration
  · rw [on_of_noted same, known, same]
  · rw [on_eq sound, change, if_neg same, Store.change, known, Store.apply, Store.get?_put,
      if_pos rfl]
    rfl

theorem event?_record {registration : Registration} {condition : Condition}
    (known : store.get? registration.descriptor.identity = some registration)
    (changed : registration.noted condition ≠ registration) :
    ((record (registration, condition)).change store).event? =
      some ⟨registration.descriptor.identity, condition.available⟩ := by
  rw [change, if_neg changed, Store.change, known]
  rfl

/-- **Only a recorded change of what is still there is announced.** -/
theorem event?_cases (sound : store.Sound) {step : Step} {event : StatusEvent}
    (announced : (step.change store).event? = some event) :
    ∃ registration condition, step = record (registration, condition) ∧
      registration.noted condition ≠ registration ∧
      store.get? registration.descriptor.identity ≠ none ∧
      event = ⟨registration.descriptor.identity, condition.available⟩ := by
  cases step with
  | record seen =>
    obtain ⟨registration, condition⟩ := seen
    by_cases same : registration.noted condition = registration
    · rw [change, if_pos same] at announced
      cases announced
    · rw [change, if_neg same, Store.change] at announced
      cases known : store.get? registration.descriptor.identity with
      | none =>
        rw [known] at announced
        cases announced
      | some existing =>
        rw [known] at announced
        refine ⟨registration, condition, rfl, same, by simp [known], ?_⟩
        rw [← sound.keyed known]
        exact (Option.some.inj announced).symm
  | remove dropped =>
    rw [change, Store.change] at announced
    split at announced <;> cases announced

end Step

/-! ### Runs of steps -/

/-- The store after several steps. -/
def run (store : Store) (steps : List Step) : Store :=
  steps.foldl (fun store step => step.on store) store

/-- What steps record, in their order. -/
def recorded (steps : List Step) : List (Registration × Condition) :=
  steps.filterMap Step.recorded?

/-- The events that steps send. -/
def sent (store : Store) : List Step → List StatusEvent
  | [] => []
  | step :: rest => (step.change store).event?.toList ++ sent (step.on store) rest

variable {store : Store} {identity : Identity}

theorem run_append (store : Store) (first second : List Step) :
    run store (first ++ second) = run (run store first) second :=
  List.foldl_append

theorem recorded_append (first second : List Step) :
    recorded (first ++ second) = recorded first ++ recorded second :=
  List.filterMap_append

theorem sound_run (sound : store.Sound) (steps : List Step) : (run store steps).Sound := by
  induction steps generalizing store with
  | nil => exact sound
  | cons step rest ih => exact ih (Step.sound_on sound step)

/-- Recording one condition after the other is a run without removals. -/
theorem recordAll_eq (store : Store) (seen : List (Registration × Condition)) :
    (recordAll store seen).1 = run store (seen.map .record) := by
  induction seen generalizing store with
  | nil => rfl
  | cons first rest ih => exact ih ((Step.record first).on store)

/-- What is recorded again as it is changes nothing. -/
theorem run_of_noted {seen : List (Registration × Condition)}
    (same : ∀ item ∈ seen, item.1.noted item.2 = item.1) :
    run store (seen.map .record) = store := by
  induction seen with
  | nil => rfl
  | cons first rest ih =>
    show run ((Step.record first).on store) (rest.map .record) = store
    rw [Step.on_of_noted (same first List.mem_cons_self)]
    exact ih fun item member => same item (List.mem_cons_of_mem first member)

/-- Steps that do not name an identity leave its registration alone. -/
theorem get?_run_of_unnamed (sound : store.Sound) {steps : List Step}
    (unnamed : ∀ step ∈ steps, step.identity ≠ identity) :
    (run store steps).get? identity = store.get? identity := by
  induction steps generalizing store with
  | nil => rfl
  | cons step rest ih =>
    rw [List.forall_mem_cons] at unnamed
    exact (ih (Step.sound_on sound step) unnamed.2).trans (Step.get?_on sound unnamed.1)

theorem get?_run_of_none (sound : store.Sound) (missing : store.get? identity = none)
    (steps : List Step) : (run store steps).get? identity = none := by
  induction steps generalizing store with
  | nil => exact missing
  | cons step rest ih =>
    exact ih (Step.sound_on sound step) (Step.get?_on_of_none sound missing step)

/-- **What is removed is not made again.** -/
theorem get?_run_of_removed (sound : store.Sound) {steps : List Step}
    (removed : .remove identity ∈ steps) : (run store steps).get? identity = none := by
  obtain ⟨earlier, later, rfl⟩ := List.append_of_mem removed
  rw [run_append]
  have before := sound_run sound earlier
  exact get?_run_of_none (Step.sound_on before _) (Step.get?_on_remove before identity) later

/-! ### Events -/

/-- The feed passes on what the steps send, in its order. -/
theorem events_run (sound : store.Sound) (steps : List Step) :
    (run store steps).events = (sent store steps).foldl Feed.send store.events := by
  induction steps generalizing store with
  | nil => rfl
  | cons step rest ih =>
    show (run (step.on store) rest).events = _
    rw [ih (Step.sound_on sound step), sent, List.foldl_append]
    congr 1
    rw [Step.on_eq sound, Store.events_apply]
    cases (step.change store).event? <;> rfl

theorem mem_sent (store : Store) (steps : List Step) (event : StatusEvent) :
    event ∈ sent store steps ↔ ∃ earlier step later, steps = earlier ++ step :: later ∧
      (step.change (run store earlier)).event? = some event := by
  induction steps generalizing store with
  | nil => simp [sent]
  | cons step rest ih =>
    rw [sent, List.mem_append, Option.mem_toList, ih]
    constructor
    · rintro (announced | ⟨earlier, next, later, rfl, announced⟩)
      · exact ⟨[], step, rest, rfl, announced⟩
      · exact ⟨step :: earlier, next, later, rfl, announced⟩
    · rintro ⟨earlier, next, later, split, announced⟩
      cases earlier with
      | nil =>
        obtain ⟨rfl, rfl⟩ := List.cons.inj split
        exact .inl announced
      | cons first earlier =>
        obtain ⟨rfl, rfl⟩ := List.cons.inj split
        exact .inr ⟨earlier, next, later, rfl, announced⟩

/-- Events are sent in the order in which conditions are recorded. -/
theorem identities_sent_sublist (sound : store.Sound) (steps : List Step) :
    ((sent store steps).map StatusEvent.identity).Sublist
      ((recorded steps).map fun seen => seen.1.descriptor.identity) := by
  induction steps generalizing store with
  | nil => exact List.Sublist.refl _
  | cons step rest ih =>
    have later := ih (Step.sound_on sound step)
    rw [sent]
    cases announced : (step.change store).event? with
    | none =>
      refine later.trans (List.Sublist.map _ ?_)
      exact (List.sublist_cons_self step rest).filterMap _
    | some event =>
      obtain ⟨registration, condition, rfl, -, -, rfl⟩ := Step.event?_cases sound announced
      exact later.cons_cons _

/-! ### Passes -/

/-- The steps of a pass over a store: what is recorded is what was observed of the listed
registrations, in the order of the list. Removals may come in between. -/
def IsPass (store : Store) (observed : Descriptor → Condition) (steps : List Step) : Prop :=
  recorded steps = store.list.map fun registration =>
    (registration, observed registration.descriptor)

/-- A registration is still there when its condition is recorded. -/
def Meets (steps : List Step) (registration : Registration) : Prop :=
  ∃ earlier condition later, steps = earlier ++ .record (registration, condition) :: later ∧
    .remove registration.descriptor.identity ∉ earlier

namespace IsPass

variable {observed : Descriptor → Condition} {steps earlier later : List Step}
  {registration : Registration} {condition : Condition}

/-- What a pass records is listed, with the condition that was observed. -/
theorem seen (pass : IsPass store observed steps)
    (recording : .record (registration, condition) ∈ steps) :
    registration ∈ store.list ∧ condition = observed registration.descriptor := by
  have member : (registration, condition) ∈ recorded steps :=
    List.mem_filterMap.mpr ⟨_, recording, rfl⟩
  rw [pass, List.mem_map] at member
  obtain ⟨listed, inList, same⟩ := member
  obtain ⟨rfl, rfl⟩ := Prod.mk.inj same
  exact ⟨inList, rfl⟩

/-- What is listed is recorded by a pass. -/
theorem records (pass : IsPass store observed steps) (listed : registration ∈ store.list) :
    .record (registration, observed registration.descriptor) ∈ steps := by
  have member : (registration, observed registration.descriptor) ∈ recorded steps := by
    rw [pass]
    exact List.mem_map_of_mem listed
  obtain ⟨step, inSteps, same⟩ := List.mem_filterMap.mp member
  cases step with
  | record seen => exact Option.some.inj same ▸ inSteps
  | remove identity => cases same

/-- A pass records in strict order of identities. -/
theorem ascending (sound : store.Sound) (pass : IsPass store observed steps) :
    Identity.Ascending ((recorded steps).map fun seen => seen.1.descriptor.identity) := by
  rw [pass, List.map_map]
  exact Store.ascending_list sound

/-- Apart from its one recording, only removals of an identity name it. -/
theorem unnamed (sound : store.Sound)
    (pass : IsPass store observed (earlier ++ .record (registration, condition) :: later))
    {others : List Step} (part : others = earlier ∨ others = later)
    (kept : .remove registration.descriptor.identity ∉ others) :
    ∀ step ∈ others, step.identity ≠ registration.descriptor.identity := by
  have distinct := (pass.ascending sound).nodup
  have split : recorded (earlier ++ .record (registration, condition) :: later) =
      recorded earlier ++ (registration, condition) :: recorded later := recorded_append _ _
  rw [split, List.map_append, List.map_cons, List.nodup_middle, List.nodup_cons,
    ← List.map_append] at distinct
  intro step member named
  cases step with
  | record seen =>
    have inOthers : seen ∈ recorded others := List.mem_filterMap.mpr ⟨_, member, rfl⟩
    refine distinct.1 (named ▸ List.mem_map_of_mem ?_)
    rcases part with rfl | rfl
    · exact List.mem_append_left _ inOthers
    · exact List.mem_append_right _ inOthers
  | remove identity =>
    cases named
    exact kept member

/-- Until its condition is recorded, a registration stays as it was listed. -/
theorem get?_run_earlier (sound : store.Sound)
    (pass : IsPass store observed (earlier ++ .record (registration, condition) :: later))
    (kept : .remove registration.descriptor.identity ∉ earlier) :
    (run store earlier).get? registration.descriptor.identity = some registration := by
  rw [get?_run_of_unnamed sound (pass.unnamed sound (.inl rfl) kept)]
  exact (Store.mem_list sound registration).mp (pass.seen List.mem_append_cons_self).1

/-- **What a pass leaves.** What was removed stays removed, and everything else has its descriptor
and the condition that was observed. -/
theorem get?_run (sound : store.Sound) (pass : IsPass store observed steps) (identity : Identity) :
    (run store steps).get? identity =
      if .remove identity ∈ steps then none
      else (store.get? identity).map fun registration =>
        registration.noted (observed registration.descriptor) := by
  by_cases removed : .remove identity ∈ steps
  · rw [if_pos removed]
    exact get?_run_of_removed sound removed
  rw [if_neg removed]
  cases known : store.get? identity with
  | none => exact get?_run_of_none sound known steps
  | some registration =>
    obtain rfl : registration.descriptor.identity = identity := sound.keyed known
    obtain ⟨earlier, later, rfl⟩ :=
      List.append_of_mem (pass.records ((Store.mem_list sound registration).mpr known))
    rw [List.mem_append, List.mem_cons, not_or, not_or] at removed
    have before := pass.get?_run_earlier sound removed.1
    have soundEarlier := sound_run sound earlier
    rw [run_append]
    show (run (Step.on (run store earlier) _) later).get? _ = _
    rw [get?_run_of_unnamed (Step.sound_on soundEarlier _)
      (pass.unnamed sound (.inr rfl) removed.2.2)]
    exact Step.get?_on_record soundEarlier before _

/-- What is there after a pass was there when its condition was recorded. -/
theorem meets (sound : store.Sound) (pass : IsPass store observed steps)
    (listed : registration ∈ store.list)
    (left : (run store steps).get? registration.descriptor.identity ≠ none) :
    Meets steps registration := by
  have kept : .remove registration.descriptor.identity ∉ steps :=
    fun removed => left (get?_run_of_removed sound removed)
  obtain ⟨earlier, later, rfl⟩ := List.append_of_mem (pass.records listed)
  exact ⟨earlier, _, later, rfl, fun removed => kept (List.mem_append_left _ removed)⟩

/-- **What a pass sends.** There is an event for each registration that was still there when its
condition was recorded, if that differs from the one that was listed. -/
theorem mem_sent (sound : store.Sound) (pass : IsPass store observed steps) (event : StatusEvent) :
    event ∈ sent store steps ↔ ∃ registration ∈ store.list, Meets steps registration ∧
      registration.noted (observed registration.descriptor) ≠ registration ∧
      event = ⟨registration.descriptor.identity, (observed registration.descriptor).available⟩ := by
  rw [Prober.mem_sent]
  constructor
  · rintro ⟨earlier, step, later, rfl, announced⟩
    obtain ⟨registration, condition, rfl, changed, present, rfl⟩ :=
      Step.event?_cases (sound_run sound earlier) announced
    obtain ⟨listed, rfl⟩ := pass.seen List.mem_append_cons_self
    have kept : .remove registration.descriptor.identity ∉ earlier :=
      fun removed => present (get?_run_of_removed sound removed)
    exact ⟨registration, listed, ⟨earlier, _, later, rfl, kept⟩, changed, rfl⟩
  · rintro ⟨registration, listed, ⟨earlier, condition, later, rfl, kept⟩, changed, rfl⟩
    obtain ⟨-, rfl⟩ := pass.seen List.mem_append_cons_self
    exact ⟨earlier, _, later, rfl,
      Step.event?_record (pass.get?_run_earlier sound kept) changed⟩

/-- Events are sent in strict order of identities. -/
theorem ascending_sent (sound : store.Sound) (pass : IsPass store observed steps) :
    Identity.Ascending ((sent store steps).map StatusEvent.identity) :=
  (pass.ascending sound).sublist (identities_sent_sublist sound steps)

/-- **A second pass that observes the same changes nothing.** -/
theorem again (sound : store.Sound) (pass : IsPass store observed steps) (prober : Prober)
    (same : ∀ registration ∈ (run store steps).list,
      prober.check registration.descriptor = observed registration.descriptor) :
    (prober.checkAll (run store steps)).1 = run store steps := by
  unfold checkAll
  rw [recordAll_eq]
  refine run_of_noted fun item member => ?_
  obtain ⟨registration, listed, rfl⟩ := List.mem_map.mp member
  show registration.noted (prober.check registration.descriptor) = registration
  rw [same registration listed]
  have known := (Store.mem_list (sound_run sound steps) registration).mp listed
  rw [pass.get?_run sound] at known
  split at known
  · cases known
  · obtain ⟨before, -, rfl⟩ := Option.map_eq_some_iff.mp known
    rfl

end IsPass

/-! ### Whole passes -/

/-- What is observed of a backend, each of them under circumstances of its own. -/
def observedBy (probers : Identity → Prober) (descriptor : Descriptor) : Condition :=
  (probers descriptor.identity).check descriptor

theorem recorded_map_record (seen : List (Registration × Condition)) :
    recorded (seen.map .record) = seen := by
  rw [recorded, List.filterMap_map]
  exact List.filterMap_some

/-- **What a pass over all registrations does.** For every store that was made from a new one, and
whatever is removed while a pass records what it observed:

* a pass that nobody disturbs is a run of its recordings;
* what was removed is not made again, and everything else has the descriptor that it had and the
  condition that was observed;
* there is one event, in the order of identities, for each registration that was still there to be
  recorded and that was observed to be other than listed, and none for any other, and what is left
  was still there;
* conditions are what `Judges` says;
* a further pass that observes the same leaves the whole store as it is, with all that its receivers
  hold.
-/
theorem checkAll_exact (options : StorageOptions) (operations : List Store.Operation)
    (probers : Identity → Prober) (steps : List Step)
    (pass : IsPass ((Store.new options).operateAll operations) (observedBy probers) steps) :
    let store := (Store.new options).operateAll operations
    let observed := observedBy probers
    let after := run store steps
    (∀ prober : Prober, (prober.checkAll store).1 =
        run store ((prober.observe store.list).map .record)) ∧
      (∀ identity, after.get? identity =
        if .remove identity ∈ steps then none
        else (store.get? identity).map fun registration =>
          registration.noted (observed registration.descriptor)) ∧
      (∃ events : List StatusEvent, after.events = events.foldl Feed.send store.events ∧
        Identity.Ascending (events.map StatusEvent.identity) ∧
        ∀ event, event ∈ events ↔ ∃ registration ∈ store.list, Meets steps registration ∧
          registration.noted (observed registration.descriptor) ≠ registration ∧
          event =
            ⟨registration.descriptor.identity, (observed registration.descriptor).available⟩) ∧
      (∀ registration ∈ store.list, after.get? registration.descriptor.identity ≠ none →
        Meets steps registration) ∧
      (∀ descriptor, (probers descriptor.identity).Judges descriptor (observed descriptor)) ∧
      ∀ prober : Prober, (∀ registration ∈ after.list,
          prober.check registration.descriptor = observed registration.descriptor) →
        (prober.checkAll after).1 = after := by
  intro store observed after
  have sound : store.Sound := Store.sound_operateAll (Store.sound_new options) operations
  refine ⟨fun prober => recordAll_eq store _, pass.get?_run sound, ?_,
    fun registration => pass.meets sound, fun descriptor => judges_check _ descriptor,
    pass.again sound⟩
  exact ⟨sent store steps, events_run sound steps, pass.ascending_sent sound, pass.mem_sent sound⟩

/-- Submissions of a local backend, and of external ones with an address and without. -/
def submitted : List Store.Operation := [
  .write (.upsert ⟨⟨"apps", "v1"⟩, ⟨100, 9⟩, none⟩),
  .write (.upsert ⟨⟨"batch", "v1"⟩, ⟨100, 9⟩, some "batch"⟩),
  .write (.upsert ⟨⟨"events", "v1"⟩, ⟨100, 9⟩, some "unknown"⟩),
  .write (.upsert ⟨⟨"late", "v1"⟩, ⟨100, 9⟩, none⟩)]

/-- A prober that knows one address, where every request succeeds. -/
def succeeding : Prober :=
  ⟨.ofList [("batch", Forwarder.deployed)], fun _ => .answer ⟨204, [], []⟩, 5⟩

/-- A pass over backends of all kinds, of which one is removed before anything is recorded, and the
pass after it. -/
theorem checkAll_exact_submitted :
    let store := (Store.new (.forAggregator "/registry" .json)).operateAll submitted
    let steps := .remove ⟨"late", "v1"⟩ :: (succeeding.observe store.list).map Step.record
    let after := run store steps
    after.get? ⟨"apps", "v1"⟩ = some ⟨⟨⟨"apps", "v1"⟩, ⟨100, 9⟩, none⟩, true, none⟩ ∧
      after.get? ⟨"batch", "v1"⟩ =
        some ⟨⟨⟨"batch", "v1"⟩, ⟨100, 9⟩, some "batch"⟩, true, none⟩ ∧
      after.get? ⟨"events", "v1"⟩ =
        some ⟨⟨⟨"events", "v1"⟩, ⟨100, 9⟩, some "unknown"⟩, false,
          some "no address mapping for service \"unknown\""⟩ ∧
      after.get? ⟨"late", "v1"⟩ = none ∧ (succeeding.checkAll after).1 = after := by
  intro store steps after
  have pass : IsPass store (observedBy fun _ => succeeding) steps := recorded_map_record _
  obtain ⟨-, left, -, -, -, again⟩ := checkAll_exact (.forAggregator "/registry" .json) submitted
    (fun _ => succeeding) steps pass
  have removed (identity : Identity) : .remove identity ∈ steps ↔ identity = ⟨"late", "v1"⟩ := by
    simp [steps]
  simp only [removed] at left
  refine ⟨(left _).trans ?_, (left _).trans ?_, (left _).trans ?_, (left _).trans ?_,
    again succeeding fun _ _ => rfl⟩
  all_goals decide +kernel

end Prober

end Aggregation
