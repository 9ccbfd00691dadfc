/-
**A listing, and the events after it.**

Who subscribes to the feed and then lists the registrations knows the condition of every backend
from then on: the listing tells it as it is, and each event tells how it changes. `announcements`
are the events that the answers of a run's writes promise, one for each creation and one for each
written condition; `receipts` is what a receiver reads during the run and finds in its inbox after
it, reports of losses included.

* `accounts_receipts`: a receiver gets what is announced, in order, less as many events as its
  reports of losses name. `Inbox.Accounts` is what each operation preserves;
* `mirrors_replay`: replaying the announcements over conditions that agree with the store keeps them
  in agreement, although a removal announces nothing: it leaves nothing to agree with, and a
  registration that is created again is announced.

So a receiver that is never told of a loss can replay what it received over what was listed when it
subscribed, and has the conditions of all registrations (`replay_receipts`).
-/

import Aggregation.Proofs.Feed
import Aggregation.Proofs.Store.Refusal

namespace Aggregation

/-! ### What reading gives -/

namespace Received

variable {α : Type}

/-- The message that was read, if it was one. -/
def message? : Received α → Option α
  | message value => some value
  | _ => none

/-- The number of messages that are reported as lost. -/
def lost : Received α → Nat
  | lagged count => count
  | _ => 0

/-- The messages among what was read. -/
def messages (received : List (Received α)) : List α := received.filterMap message?

/-- The number of messages that were reported as lost. -/
def totalLost : List (Received α) → Nat
  | [] => 0
  | first :: rest => first.lost + totalLost rest

@[simp] theorem messages_append (first second : List (Received α)) :
    messages (first ++ second) = messages first ++ messages second :=
  List.filterMap_append

@[simp] theorem totalLost_append (first second : List (Received α)) :
    totalLost (first ++ second) = totalLost first + totalLost second := by
  induction first with
  | nil => exact (Nat.zero_add _).symm
  | cons next rest ih => rw [List.cons_append, totalLost, totalLost, ih, Nat.add_assoc]

@[simp] theorem messages_map_message (values : List α) :
    messages (values.map message) = values := by
  induction values with
  | nil => rfl
  | cons value rest ih => simpa [messages, message?] using ih

@[simp] theorem totalLost_map_message (values : List α) : totalLost (values.map message) = 0 := by
  induction values with
  | nil => rfl
  | cons value rest ih => exact (Nat.zero_add _).trans ih

/-- Without a report of a loss nothing was lost. -/
theorem totalLost_eq_zero {received : List (Received α)}
    (unlagged : ∀ count, .lagged count ∉ received) : totalLost received = 0 := by
  induction received with
  | nil => rfl
  | cons first rest ih =>
    have none : lost first = 0 := by
      cases first with
      | lagged count => exact absurd List.mem_cons_self (unlagged count)
      | message value => rfl
      | nothing => rfl
    have others := ih fun count later => unlagged count (List.mem_cons_of_mem _ later)
    rw [totalLost, none, others]

end Received

namespace Inbox

variable {α : Type}

/-- What reading an inbox empty gives. -/
def contents (inbox : Inbox α) : List (Received α) :=
  (if inbox.missed = 0 then [] else [.lagged inbox.missed]) ++ inbox.queue.map .message

@[simp] theorem messages_contents (inbox : Inbox α) :
    Received.messages inbox.contents = inbox.queue := by
  rw [contents, Received.messages_append, Received.messages_map_message]
  split <;> rfl

@[simp] theorem totalLost_contents (inbox : Inbox α) :
    Received.totalLost inbox.contents = inbox.missed := by
  rw [contents, Received.totalLost_append, Received.totalLost_map_message]
  split
  · next complete => exact complete.symm
  · rfl

/-- What was read from an inbox and what was sent to it account for how it changed. -/
structure Accounts (before after : Inbox α) (read : List (Received α)) (sent : List α) : Prop where
  /-- What was read and what is held now was held before or sent, in that order. -/
  kept : (Received.messages read ++ after.queue).Sublist (before.queue ++ sent)
  /-- What is not among it is reported as lost, or counted as missed. -/
  counted : Received.totalLost read + (Received.messages read).length +
    (after.missed + after.queue.length) = before.missed + before.queue.length + sent.length

namespace Accounts

theorem refl (inbox : Inbox α) : inbox.Accounts inbox [] [] :=
  ⟨by simp [Received.messages], by simp [Received.totalLost, Received.messages]⟩

/-- Accounts of what happens one after the other add up. -/
theorem append {first second third : Inbox α} {early late : List (Received α)}
    {before after : List α} (one : first.Accounts second early before)
    (two : second.Accounts third late after) :
    first.Accounts third (early ++ late) (before ++ after) where
  kept := by
    have later := (List.Sublist.refl (Received.messages early)).append two.kept
    have earlier := one.kept.append (List.Sublist.refl after)
    rw [Received.messages_append, List.append_assoc, ← List.append_assoc first.queue]
    exact later.trans (by rwa [← List.append_assoc])
  counted := by
    have earlier := one.counted
    have later := two.counted
    simp only [Received.totalLost_append, Received.messages_append, List.length_append]
    omega

end Accounts

/-- Reading an inbox empty gives all that it holds. -/
theorem accounts_contents (inbox : Inbox α) : inbox.Accounts empty inbox.contents [] :=
  ⟨by simp [empty], by simp [empty]⟩

/-- Reading takes a message from the front, or the report of what is missed. -/
theorem accounts_receive (inbox : Inbox α) :
    inbox.Accounts inbox.receive.2 [inbox.receive.1] [] := by
  rcases inbox with ⟨missed, queue⟩
  by_cases complete : missed = 0
  · subst complete
    cases queue with
    | nil => exact ⟨List.Sublist.refl _, rfl⟩
    | cons first rest =>
      refine ⟨List.sublist_append_left (first :: rest) [], ?_⟩
      show 0 + 1 + (0 + rest.length) = 0 + (rest.length + 1) + 0
      omega
  · rw [receive_of_missed complete]
    refine ⟨List.sublist_append_left queue [], ?_⟩
    show missed + 0 + (0 + queue.length) = missed + queue.length + 0
    omega

/-- A further message is kept, and one that goes for it is counted as missed. -/
theorem accounts_push {capacity : Nat} (room : 0 < capacity) (inbox : Inbox α) (message : α) :
    inbox.Accounts (inbox.push capacity message) [] [message] := by
  rcases inbox with ⟨missed, queue⟩
  unfold push
  split
  · refine ⟨List.Sublist.refl _, ?_⟩
    show 0 + 0 + (missed + (queue ++ [message]).length) = missed + queue.length + 1
    rw [List.length_append, List.length_singleton]
    omega
  · next full =>
    refine ⟨(List.tail_sublist queue).append (List.Sublist.refl _), ?_⟩
    show 0 + 0 + (missed + 1 + (queue.tail ++ [message]).length) = missed + queue.length + 1
    rw [List.length_append, List.length_tail, List.length_singleton]
    simp only at full
    omega

end Inbox

namespace Store

/-! ### What is announced, and what is received -/

/-- The event that the answer to a write announces: a creation is one of a backend that is not
available, and a written condition is announced as it was written. -/
def announced? (store : Store) : Write → Option StatusEvent
  | .upsert descriptor =>
    match (store.upsert descriptor).2 with
    | .ok .created => some ⟨descriptor.identity, false⟩
    | _ => none
  | .setAvailable identity available message =>
    match (store.setAvailable identity available message).2 with
    | .ok () => some ⟨identity, available⟩
    | .error _ => none
  | .remove _ => none

/-- The event that an operation announces. -/
def announcedBy (store : Store) : Operation → List StatusEvent
  | .write write => (store.announced? write).toList
  | _ => []

/-- The events that the answers of a run announce, in order. -/
def announcements : Store → List Operation → List StatusEvent
  | _, [] => []
  | store, operation :: rest =>
    store.announcedBy operation ++ announcements (store.operate operation) rest

/-- What an operation lets a receiver read. -/
def readBy (receiver : Nat) (store : Store) : Operation → List (Received StatusEvent)
  | .receive reader => if reader = receiver then [(store.events.receive reader).1] else []
  | _ => []

/-- What a receiver reads during a run, and what is left in its inbox after it. -/
def receipts (receiver : Nat) : Store → List Operation → List (Received StatusEvent)
  | store, [] => (store.events.inbox? receiver).elim [] Inbox.contents
  | store, operation :: rest =>
    readBy receiver store operation ++ receipts receiver (store.operate operation) rest

/-- **What a write sends is what its answer announces.** -/
theorem event?_change {store : Store} (sound : store.Sound) (write : Write) :
    (store.change write).event? = store.announced? write := by
  cases write with
  | upsert descriptor =>
    rcases known : store.get? descriptor.identity with _ | existing
    · rcases version : store.options.registrationVersion? with _ | encodedAt
      · simp only [change, announced?, upsert, known, version, persist_of_missing _ version,
          Change.event?]
      · simp only [change, announced?, upsert, known, version, persist_of_encodes _ version,
          Change.event?]
    · simp only [change, announced?, upsert, known, Change.event?]
      split
      · next created =>
        split at created
        · cases created
        · split at created <;> cases created
      · rfl
  | setAvailable identity available message =>
    rcases known : store.get? identity with _ | existing
    · simp only [change, announced?, setAvailable, known, Change.event?]
    · obtain ⟨encodedAt, version⟩ := Option.isSome_iff_exists.mp (sound.encodable known)
      have recorded : (store.record
          ⟨existing.descriptor, available, message⟩).options.registrationVersion? =
            some encodedAt :=
        version
      simp only [change, announced?, setAvailable, known, persist_of_encodes _ recorded,
        Change.event?, sound.keyed known]
  | remove identity =>
    simp only [change, announced?]
    split <;> rfl

/-- The feed gets what is announced. -/
theorem events_write {store : Store} (sound : store.Sound) (write : Write) :
    (store.write write).events =
      (store.announced? write).elim store.events store.events.send := by
  rw [write_eq sound, events_apply, event?_change sound]

theorem capacity_operate {store : Store} (sound : store.Sound) (operation : Operation) :
    (store.operate operation).events.capacity = store.events.capacity := by
  cases operation with
  | write write =>
    show (store.write write).events.capacity = _
    rw [events_write sound]
    cases store.announced? write <;> rfl
  | subscribe => rfl
  | receive receiver => exact Feed.capacity_receive store.events receiver
  | unsubscribe receiver => rfl

theorem capacity_operateAll {store : Store} (sound : store.Sound) (operations : List Operation) :
    (store.operateAll operations).events.capacity = store.events.capacity := by
  induction operations generalizing store with
  | nil => rfl
  | cons operation rest ih =>
    exact (ih (sound_operate sound operation)).trans (capacity_operate sound operation)

/-- **One operation.** What a receiver that stays subscribed reads, and what is announced, account
for its inbox. -/
theorem inbox?_operate {store : Store} (sound : store.Sound) (room : 0 < store.events.capacity)
    {receiver : Nat} {inbox : Inbox StatusEvent}
    (held : store.events.inbox? receiver = some inbox) {operation : Operation}
    (stays : operation ≠ .unsubscribe receiver) :
    ∃ after, (store.operate operation).events.inbox? receiver = some after ∧
      inbox.Accounts after (readBy receiver store operation) (store.announcedBy operation) := by
  cases operation with
  | write write =>
    have events := events_write sound write
    rcases announced : store.announced? write with _ | event
    · rw [announced] at events
      have quiet : store.announcedBy (.write write) = [] := by simp [announcedBy, announced]
      rw [quiet]
      exact ⟨inbox, by rw [operate, events]; exact held, .refl inbox⟩
    · rw [announced] at events
      have told : store.announcedBy (.write write) = [event] := by simp [announcedBy, announced]
      rw [told]
      refine ⟨inbox.push store.events.capacity event, ?_, inbox.accounts_push room event⟩
      rw [operate, events, Option.elim_some, Feed.inbox?_send, held]
      rfl
  | subscribe =>
    have known : receiver ≠ store.events.inboxes.length :=
      Nat.ne_of_lt (Feed.lt_length_of_inbox? held)
    exact ⟨inbox, (Feed.inbox?_subscribe_of_ne known).trans held, .refl inbox⟩
  | receive reader =>
    by_cases own : reader = receiver
    · subst own
      have read : readBy reader store (.receive reader) = [inbox.receive.1] := by
        rw [readBy, if_pos rfl, Feed.receive_of_inbox? held]
      rw [read]
      exact ⟨inbox.receive.2, Feed.inbox?_receive held, inbox.accounts_receive⟩
    · have unread : readBy receiver store (.receive reader) = [] := by rw [readBy, if_neg own]
      have other : receiver ≠ reader := fun same => own same.symm
      rw [unread]
      exact ⟨inbox, (Feed.inbox?_receive_of_ne other).trans held, .refl inbox⟩
  | unsubscribe dropped =>
    have other : receiver ≠ dropped := fun same => stays (same ▸ rfl)
    refine ⟨inbox, ?_, .refl inbox⟩
    rw [operate, Feed.inbox?_unsubscribe, if_neg other]
    exact held

/-- **A receiver gets what is announced, in order, less what it is told it lost.** -/
theorem accounts_receipts {store : Store} (sound : store.Sound) (room : 0 < store.events.capacity)
    {receiver : Nat} {inbox : Inbox StatusEvent}
    (held : store.events.inbox? receiver = some inbox) {operations : List Operation}
    (stays : .unsubscribe receiver ∉ operations) :
    inbox.Accounts .empty (receipts receiver store operations)
      (store.announcements operations) := by
  induction operations generalizing store inbox with
  | nil =>
    rw [receipts, held]
    exact inbox.accounts_contents
  | cons operation rest ih =>
    have first : operation ≠ .unsubscribe receiver := fun same => stays (same ▸ List.mem_cons_self)
    obtain ⟨after, left, accounts⟩ := inbox?_operate sound room held first
    exact accounts.append (ih (sound_operate sound operation) (by rwa [capacity_operate sound]) left
      fun also => stays (List.mem_cons_of_mem _ also))

/-- **A receiver that is never told of a loss gets exactly what is announced.** -/
theorem messages_receipts {store : Store} (sound : store.Sound) (room : 0 < store.events.capacity)
    {receiver : Nat} (held : store.events.inbox? receiver = some Inbox.empty)
    {operations : List Operation} (stays : .unsubscribe receiver ∉ operations)
    (unlagged : ∀ count, .lagged count ∉ receipts receiver store operations) :
    Received.messages (receipts receiver store operations) = store.announcements operations := by
  obtain ⟨kept, counted⟩ := accounts_receipts sound room held stays
  rw [Received.totalLost_eq_zero unlagged] at counted
  refine List.Sublist.eq_of_length (by simpa [Inbox.empty] using kept) ?_
  simpa [Inbox.empty] using counted

end Store

/-! ### Conditions -/

/-- The conditions of backends, as far as they are known. -/
abbrev Conditions := Table Identity Bool

namespace Conditions

/-- The conditions that a list of registrations shows. -/
def ofRegistrations (registrations : List Registration) : Conditions :=
  Table.ofList (registrations.map fun registration =>
    (registration.descriptor.identity, registration.available))

/-- The conditions after events. -/
def replay (known : Conditions) (events : List StatusEvent) : Conditions :=
  events.foldl (fun known event => known.insert event.identity event.available) known

/-- The conditions agree with a store on what is registered. -/
def Mirrors (known : Conditions) (store : Store) : Prop :=
  ∀ identity registration, store.get? identity = some registration →
    known.get? identity = some registration.available

/-- A listing shows the condition of everything that is registered. -/
theorem mirrors_list {store : Store} (sound : store.Sound) :
    (ofRegistrations store.list).Mirrors store := by
  intro identity registration known
  have own : registration.descriptor.identity = identity := sound.keyed known
  have listed : registration ∈ store.list := (Store.mem_list sound registration).mpr (own ▸ known)
  unfold ofRegistrations Table.ofList
  rw [Table.get?_insertAll]
  -- Whichever entry of the identity comes last, it is the one of the registration.
  rcases found : (List.reverse (store.list.map fun registration =>
      (registration.descriptor.identity, registration.available))).find?
        (fun entry => entry.1 = identity) with _ | entry
  · rw [List.find?_eq_none] at found
    refine absurd own ?_
    simpa using found (registration.descriptor.identity, registration.available)
      (List.mem_reverse.mpr (List.mem_map_of_mem listed))
  · obtain ⟨other, also, rfl⟩ :=
      List.mem_map.mp (List.mem_reverse.mp (List.mem_of_find?_eq_some found))
    have named : other.descriptor.identity = identity := by
      simpa using List.find?_some found
    have same := (Store.mem_list sound other).mp also
    rw [named, known, Option.some.injEq] at same
    rw [found, same]
    rfl

/-- **One change.** Its event keeps the conditions in agreement with the store. -/
theorem mirrors_apply {known : Conditions} {store : Store} (mirrors : known.Mirrors store)
    (change : Store.Change) :
    (known.replay change.event?.toList).Mirrors (store.apply change) := by
  intro identity registration found
  cases change with
  | none => exact mirrors identity registration found
  | keep kept =>
    rw [Store.apply, Store.get?_put] at found
    show (known.insert kept.descriptor.identity kept.available).get? identity = _
    rw [Table.get?_insert]
    split at found
    · next same =>
      cases found
      rw [if_pos same]
    · next other =>
      rw [if_neg other]
      exact mirrors identity registration found
  | drop dropped =>
    -- What is dropped may stay known, for it is not registered any more.
    rw [Store.apply, Store.get?_erase] at found
    split at found
    · cases found
    · exact mirrors identity registration found

theorem mirrors_operate {known : Conditions} {store : Store} (sound : store.Sound)
    (mirrors : known.Mirrors store) (operation : Store.Operation) :
    (known.replay (store.announcedBy operation)).Mirrors (store.operate operation) := by
  cases operation with
  | write write =>
    rw [Store.operate, Store.announcedBy, Store.write_eq sound, ← Store.event?_change sound]
    exact mirrors_apply mirrors (store.change write)
  | subscribe => exact mirrors
  | receive receiver => exact mirrors
  | unsubscribe receiver => exact mirrors

/-- **The announcements of a run tell every condition.** -/
theorem mirrors_replay {known : Conditions} {store : Store} (sound : store.Sound)
    (mirrors : known.Mirrors store) (operations : List Store.Operation) :
    (known.replay (store.announcements operations)).Mirrors (store.operateAll operations) := by
  induction operations generalizing known store with
  | nil => exact mirrors
  | cons operation rest ih =>
    have later := ih (Store.sound_operate sound operation) (mirrors_operate sound mirrors operation)
    unfold replay at later ⊢
    rw [Store.announcements, List.foldl_append]
    exact later

end Conditions

namespace Store

/-- **A listing and the feed tell every condition.** Whatever was done with a new store, who
subscribes to its feed, is not told of a loss whatever is done after that, and stays subscribed,
receives one event for each creation and for each written condition, in their order, and no others.
Replayed over what was listed at the subscription, they give the condition of everything that is
registered at the end. -/
theorem replay_receipts (options : StorageOptions) (before after : List Operation) :
    let store := (new options).operateAll before
    let receiver := store.subscribe.2
    let subscribed := store.operate .subscribe
    .unsubscribe receiver ∉ after →
    (∀ count, .lagged count ∉ receipts receiver subscribed after) →
      Received.messages (receipts receiver subscribed after) = subscribed.announcements after ∧
      ∀ identity registration, (subscribed.operateAll after).get? identity = some registration →
        ((Conditions.ofRegistrations store.list).replay
          (Received.messages (receipts receiver subscribed after))).get? identity =
            some registration.available := by
  intro store receiver subscribed stays unlagged
  have sound : store.Sound := sound_operateAll (sound_new options) before
  have room : 0 < subscribed.events.capacity := by
    have kept : subscribed.events.capacity = feedCapacity :=
      (capacity_operate sound .subscribe).trans (capacity_operateAll (sound_new options) before)
    rw [kept]
    exact Nat.succ_pos _
  have held : subscribed.events.inbox? receiver = some Inbox.empty :=
    Feed.inbox?_subscribe store.events
  have complete := messages_receipts (sound_operate sound .subscribe) room held stays unlagged
  refine ⟨complete, ?_⟩
  rw [complete]
  have shown : (Conditions.ofRegistrations store.list).Mirrors subscribed :=
    fun identity registration known => Conditions.mirrors_list sound identity registration known
  exact Conditions.mirrors_replay (sound_operate sound .subscribe) shown after

/-- A backend is registered while another receiver looks on. -/
def registered : List Operation := [.subscribe, .write (.upsert ⟨⟨"g", "v1"⟩, ⟨100, 9⟩, none⟩)]

/-- It is found available, removed, and registered again. In between somebody submits it once more
in vain and somebody writes the condition of a backend that there is not, and both receivers read.
-/
def recreated : List Operation := [
  .write (.setAvailable ⟨"g", "v1"⟩ true none), .receive 1, .write (.remove ⟨"g", "v1"⟩),
  .receive 0, .write (.upsert ⟨⟨"g", "v1"⟩, ⟨200, 9⟩, none⟩),
  .write (.upsert ⟨⟨"g", "v1"⟩, ⟨100, 9⟩, none⟩),
  .write (.setAvailable ⟨"h", "v1"⟩ true none)]

/-- A receiver that looks on while a backend is removed and created again. -/
theorem replay_receipts_recreated :
    let store := (new (.forAggregator "/registry" .json)).operateAll registered
    let receipts := receipts 1 (store.operate .subscribe) recreated
    .unsubscribe 1 ∉ recreated ∧ (∀ count, .lagged count ∉ receipts) ∧
      Received.messages receipts = [⟨⟨"g", "v1"⟩, true⟩, ⟨⟨"g", "v1"⟩, false⟩] ∧
      ((Conditions.ofRegistrations store.list).replay (Received.messages receipts)).get?
        ⟨"g", "v1"⟩ = some false := by
  intro store receipts
  have read : receipts =
      [.message ⟨⟨"g", "v1"⟩, true⟩, .message ⟨⟨"g", "v1"⟩, false⟩] := by decide +kernel
  have stays : .unsubscribe 1 ∉ recreated := by simp [recreated]
  have unlagged : ∀ count, .lagged count ∉ receipts := by
    rw [read]
    simp
  have again : ((store.operate .subscribe).operateAll recreated).get? ⟨"g", "v1"⟩ =
      some ⟨⟨⟨"g", "v1"⟩, ⟨200, 9⟩, none⟩, false, none⟩ := by decide +kernel
  obtain ⟨told, conditions⟩ := replay_receipts (.forAggregator "/registry" .json) registered
    recreated stays unlagged
  have announced : (store.operate .subscribe).announcements recreated =
      [⟨⟨"g", "v1"⟩, true⟩, ⟨⟨"g", "v1"⟩, false⟩] := by decide +kernel
  exact ⟨stays, unlagged, told.trans announced, conditions _ _ again⟩

end Store

end Aggregation
