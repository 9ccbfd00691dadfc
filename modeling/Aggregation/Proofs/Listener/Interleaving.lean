/-
**A listener among writers.**

A `Watching` is a listener with the store it watches and the gate it brings events to. While the
listener takes its steps others write to the store and seed the gate, in any order: a run is a list
of `Move`s, each of them atomic, and every list is a run.

Whatever the order, the watching stays `Regular`: the store sound, the gate closed and ascending,
and the listener, once it has subscribed, in possession of an inbox. In a regular watching

* a write reaches the listener as at most one event, pushed into its inbox (`inbox_write`);
* a step of the listener is one of seven (`Listened`, `listened`), each told by what the listener
  does next, what its inbox holds and what the gate was given.
-/

import Aggregation.Listener
import Aggregation.Proofs.Feed
import Aggregation.Proofs.Gate
import Aggregation.Proofs.Store.Write

namespace Aggregation

namespace Listener

/-- The receiver of a listener that has subscribed. -/
def receiver? : Listener → Option Nat
  | starting => none
  | listing receiver => some receiver
  | replaying receiver _ => some receiver
  | waiting receiver => some receiver
  | stopped => none

/-- The listed registrations that are still to be handed to the gate. -/
def left : Listener → List Registration
  | replaying _ left => left
  | _ => []

end Listener

/-- An atomic step of a run. -/
inductive Move where
  | write (write : Store.Write)
  | listen
  | seed (identities : List Identity)

/-- A listener with the store and the gate between which it stands. -/
structure Watching where
  around : Listener.Surroundings
  listener : Listener

namespace Watching

open Identity (Ascending)
open Listener (replayed)

abbrev store (watching : Watching) : Store := watching.around.store

abbrev gate (watching : Watching) : Gate := watching.around.gate

/-- A listener that is about to start. -/
def start (store : Store) (gate : Gate) : Watching := ⟨⟨store, gate, []⟩, .starting⟩

/-- The watching after a move. -/
def step (watching : Watching) : Move → Watching
  | .write write =>
    { watching with around := { watching.around with store := watching.store.write write } }
  | .listen =>
    let (around, listener) := watching.listener.step watching.around
    ⟨around, listener⟩
  | .seed identities =>
    let (gate, _, observed) := watching.gate.seed identities
    { watching with
      around := { watching.around with
        gate := gate
        observed := watching.around.observed ++ observed } }

/-- The watching after a run. -/
def run (watching : Watching) (moves : List Move) : Watching := moves.foldl step watching

theorem run_append (watching : Watching) (first second : List Move) :
    watching.run (first ++ second) = (watching.run first).run second :=
  List.foldl_append

/-- What the listener's receiver holds. -/
def inbox (watching : Watching) : Inbox StatusEvent :=
  (watching.listener.receiver?.bind watching.store.events.inbox?).getD Inbox.empty

/-- The events that the listener holds and has yet to hand to the gate: what it has listed, and
after that what it has received. -/
def ahead (watching : Watching) : List StatusEvent :=
  watching.listener.left.map replayed ++ watching.inbox.queue

/-- The listener will list the registrations before it next finds nothing to receive. -/
def ListsAhead (watching : Watching) : Prop :=
  watching.listener = .starting ∨ (∃ receiver, watching.listener = .listing receiver) ∨
    watching.inbox.missed ≠ 0

theorem listsAhead_replaying {watching : Watching} {receiver : Nat} {left : List Registration}
    (replaying : watching.listener = .replaying receiver left) :
    watching.ListsAhead ↔ watching.inbox.missed ≠ 0 := by
  simp only [ListsAhead, replaying, reduceCtorEq, exists_false, false_or]

theorem listsAhead_waiting {watching : Watching} {receiver : Nat}
    (waiting : watching.listener = .waiting receiver) :
    watching.ListsAhead ↔ watching.inbox.missed ≠ 0 := by
  simp only [ListsAhead, waiting, reduceCtorEq, exists_false, false_or]

/-- The registrations that the listener lists with its next step. -/
def lists (watching : Watching) : List Registration :=
  match watching.listener with
  | .listing _ => watching.store.list
  | _ => []

theorem mem_list_of_lists {watching : Watching} {registration : Registration}
    (listed : registration ∈ watching.lists) : registration ∈ watching.store.list := by
  unfold lists at listed
  split at listed
  · exact listed
  · cases listed

/-- Whether the listener waits and has nothing to receive, neither an event nor the report of a
loss. -/
def isQuiet (watching : Watching) : Bool :=
  match watching.listener with
  | .waiting receiver => !watching.store.events.hasNews receiver
  | _ => false

/-! ### Regular watchings -/

/-- What every move of a run preserves. -/
structure Regular (capacity : Nat) (watching : Watching) : Prop where
  sound : watching.store.Sound
  closed : watching.gate.isClosed = true
  ascending : Ascending watching.gate.pending
  capacity : watching.store.events.capacity = capacity
  /-- A listener that has subscribed has an inbox. -/
  connected : watching.listener = .starting ∨ ∃ receiver inbox,
    watching.listener.receiver? = some receiver ∧
      watching.store.events.inbox? receiver = some inbox

theorem inbox_of_receiver {watching : Watching} {receiver : Nat} {inbox : Inbox StatusEvent}
    (own : watching.listener.receiver? = some receiver)
    (held : watching.store.events.inbox? receiver = some inbox) : watching.inbox = inbox := by
  unfold Watching.inbox
  rw [own, Option.bind_some, held]
  rfl

theorem inbox_starting {watching : Watching} (starting : watching.listener = .starting) :
    watching.inbox = Inbox.empty := by
  unfold inbox
  rw [starting]
  rfl

/-- The inbox of a regular watching whose listener has subscribed. -/
theorem Regular.held {capacity : Nat} {watching : Watching} (regular : watching.Regular capacity)
    {receiver : Nat} (own : watching.listener.receiver? = some receiver) :
    watching.store.events.inbox? receiver = some watching.inbox := by
  rcases regular.connected with starting | ⟨receiver', inbox, own', held⟩
  · rw [starting] at own
    cases own
  · rw [own] at own'
    cases own'
    rw [inbox_of_receiver own held, held]

/-- A waiting listener is quiet if its inbox is empty. -/
theorem Regular.isQuiet_iff {capacity : Nat} {watching : Watching}
    (regular : watching.Regular capacity) {receiver : Nat}
    (waiting : watching.listener = .waiting receiver) :
    watching.isQuiet = true ↔ watching.inbox.missed = 0 ∧ watching.inbox.queue = [] := by
  have own : watching.listener.receiver? = some receiver := by rw [waiting]; rfl
  unfold isQuiet
  rw [waiting]
  show (!watching.store.events.hasNews receiver) = true ↔ _
  rw [Feed.hasNews_of_inbox? (regular.held own), Bool.not_eq_true', Inbox.hasNews_eq_false_iff]

theorem waiting_of_isQuiet {watching : Watching} (quiet : watching.isQuiet = true) :
    ∃ receiver, watching.listener = .waiting receiver := by
  unfold isQuiet at quiet
  split at quiet
  · next receiver waiting => exact ⟨receiver, waiting⟩
  · cases quiet

/-- A quiet listener has no listing and no event ahead of it. -/
theorem Regular.quiet {capacity : Nat} {watching : Watching} (regular : watching.Regular capacity)
    (quiet : watching.isQuiet = true) : ¬watching.ListsAhead ∧ watching.ahead = [] := by
  obtain ⟨receiver, waiting⟩ := waiting_of_isQuiet quiet
  obtain ⟨silent, empty⟩ := (regular.isQuiet_iff waiting).mp quiet
  refine ⟨fun later => (listsAhead_waiting waiting).mp later silent, ?_⟩
  unfold ahead
  rw [waiting, empty]
  rfl

/-! ### Writes -/

/-- The event of a write that reaches the listener. -/
def told? (watching : Watching) (write : Store.Write) : Option StatusEvent :=
  watching.listener.receiver?.bind fun _ => (watching.store.change write).event?

theorem store_write {capacity : Nat} {watching : Watching} (regular : watching.Regular capacity)
    (write : Store.Write) :
    (watching.step (.write write)).store =
      watching.store.apply (watching.store.change write) :=
  Store.write_eq regular.sound write

/-- **A write pushes its event into the listener's inbox, and changes nothing else of it.** -/
theorem inbox_write {capacity : Nat} {watching : Watching} (regular : watching.Regular capacity)
    (write : Store.Write) :
    (watching.step (.write write)).inbox =
      (watching.told? write).elim watching.inbox (watching.inbox.push capacity) := by
  rcases own : watching.listener.receiver? with _ | receiver
  · unfold told? inbox step
    simp only [own, Option.bind_none, Option.elim_none]
  · have held := regular.held own
    unfold told?
    rw [own, Option.bind_some]
    refine inbox_of_receiver own ?_
    rw [store_write regular, Store.events_apply]
    rcases (watching.store.change write).event? with _ | event
    · exact held
    · rw [Option.elim_some, Option.elim_some, Feed.inbox?_send, held, regular.capacity]
      rfl

/-- What a write makes the listener lose: the oldest event of a full inbox. -/
def lost (watching : Watching) (write : Store.Write) : List StatusEvent :=
  (watching.told? write).elim [] fun _ => watching.inbox.pushedOut watching.store.events.capacity

/-- **Nothing gets lost but what is pushed out.** What the listener loses by a write and what it
still holds are together what it held before, with the event of the write at the end. -/
theorem lost_append_queue {capacity : Nat} {watching : Watching}
    (regular : watching.Regular capacity) (write : Store.Write) :
    watching.lost write ++ (watching.step (.write write)).inbox.queue =
      watching.inbox.queue ++ (watching.told? write).toList := by
  rw [inbox_write regular, lost, regular.capacity]
  rcases watching.told? write with _ | event
  · exact (List.append_nil _).symm
  · exact Inbox.pushedOut_append_queue capacity watching.inbox event

/-- An event of which the listener is told is ahead of it, or was so before. -/
theorem mem_ahead_write {capacity : Nat} {watching : Watching} (regular : watching.Regular capacity)
    {write : Store.Write} {event : StatusEvent}
    (member : event ∈ (watching.step (.write write)).ahead) :
    event ∈ watching.ahead ∨ watching.told? write = some event := by
  rcases List.mem_append.mp member with listed | queued
  · exact Or.inl (List.mem_append_left _ listed)
  · have known : event ∈ watching.inbox.queue ++ (watching.told? write).toList := by
      rw [← lost_append_queue regular]
      exact List.mem_append_right _ queued
    rcases List.mem_append.mp known with queued | told
    · exact Or.inl (List.mem_append_right _ queued)
    · exact Or.inr (Option.mem_toList.mp told)

/-- The event of a write comes after all that is ahead of the listener, unless the listener has lost
something and lists again. -/
theorem ahead_write {capacity : Nat} {watching : Watching} (regular : watching.Regular capacity)
    (write : Store.Write) :
    (watching.step (.write write)).ListsAhead ∨
      (watching.step (.write write)).ahead = watching.ahead ++ (watching.told? write).toList := by
  by_cases silent : (watching.step (.write write)).inbox.missed = 0
  · have nothing : watching.lost write = [] := by
      rw [inbox_write regular] at silent
      rw [lost, regular.capacity]
      rcases told : watching.told? write with _ | event
      · rfl
      · rw [told] at silent
        exact (Inbox.missed_push_eq_zero silent).2
    have queue := lost_append_queue regular write
    rw [nothing, List.nil_append] at queue
    refine Or.inr ?_
    rw [ahead, ahead, queue, List.append_assoc]
    rfl
  · exact Or.inl (Or.inr (Or.inr silent))

theorem listsAhead_write {capacity : Nat} {watching : Watching}
    (regular : watching.Regular capacity) (write : Store.Write) (later : watching.ListsAhead) :
    (watching.step (.write write)).ListsAhead := by
  rcases later with starting | listing | missed
  · exact Or.inl starting
  · exact Or.inr (Or.inl listing)
  · refine Or.inr (Or.inr ?_)
    rw [inbox_write regular]
    rcases watching.told? write with _ | event
    · exact missed
    · exact fun silent => missed (Inbox.missed_push_eq_zero silent).1

theorem regular_write {capacity : Nat} {watching : Watching} (regular : watching.Regular capacity)
    (write : Store.Write) : (watching.step (.write write)).Regular capacity where
  sound := Store.sound_write regular.sound write
  closed := regular.closed
  ascending := regular.ascending
  capacity := by
    rw [store_write regular, Store.events_apply]
    rcases (watching.store.change write).event? with _ | event <;> exact regular.capacity
  connected := by
    rcases regular.connected with starting | ⟨receiver, inbox, own, held⟩
    · exact Or.inl starting
    · refine Or.inr ⟨receiver, (watching.step (.write write)).inbox, own, ?_⟩
      rw [store_write regular, Store.events_apply]
      rcases sent : (watching.store.change write).event? with _ | event
      · rw [inbox_write regular]
        unfold told?
        rw [own, Option.bind_some, sent]
        exact regular.held own
      · rw [inbox_write regular]
        unfold told?
        rw [own, Option.bind_some, sent, Option.elim_some, Option.elim_some, Feed.inbox?_send,
          regular.held own, regular.capacity]
        rfl

/-! ### Steps of the listener -/

section Waiting

variable {around : Listener.Surroundings} {receiver : Nat} {events : Feed StatusEvent}

theorem listen_nothing (read : around.store.events.receive receiver = (.nothing, events)) :
    (⟨around, .waiting receiver⟩ : Watching).step .listen = ⟨around, .waiting receiver⟩ := by
  simp only [step, Listener.step, read]

theorem listen_lagged {count : Nat}
    (read : around.store.events.receive receiver = (.lagged count, events)) :
    (⟨around, .waiting receiver⟩ : Watching).step .listen =
      ⟨{ around with store := { around.store with events := events } }, .listing receiver⟩ := by
  simp only [step, Listener.step, read]

theorem listen_message {event : StatusEvent}
    (read : around.store.events.receive receiver = (.message event, events)) :
    (⟨around, .waiting receiver⟩ : Watching).step .listen =
      ⟨Listener.dispatch { around with store := { around.store with events := events } } event,
        .waiting receiver⟩ := by
  simp only [step, Listener.step, read]

end Waiting

/-- What a step of the listener does: what it turns to, what its inbox holds afterwards, and what it
hands to the gate. -/
inductive Listened (before after : Watching) : Prop
  | subscribed (receiver : Nat) (starting : before.listener = .starting)
      (turned : after.listener = .listing receiver) (inbox : after.inbox = Inbox.empty)
      (gate : after.gate = before.gate)
  | listed (receiver : Nat) (listing : before.listener = .listing receiver)
      (turned : after.listener = .replaying receiver before.store.list)
      (inbox : after.inbox = before.inbox) (gate : after.gate = before.gate)
  | replayed (receiver : Nat) (registration : Registration) (rest : List Registration)
      (replaying : before.listener = .replaying receiver (registration :: rest))
      (turned : after.listener = .replaying receiver rest) (inbox : after.inbox = before.inbox)
      (gate : after.gate = (before.gate.onEvent (replayed registration)).1)
  | caughtUp (receiver : Nat) (replaying : before.listener = .replaying receiver [])
      (turned : after.listener = .waiting receiver) (inbox : after.inbox = before.inbox)
      (gate : after.gate = before.gate)
  | idle (receiver : Nat) (waiting : before.listener = .waiting receiver)
      (empty : before.inbox = Inbox.empty) (unchanged : after = before)
  | lagged (receiver : Nat) (waiting : before.listener = .waiting receiver)
      (lost : before.inbox.missed ≠ 0) (turned : after.listener = .listing receiver)
      (inbox : after.inbox = ⟨0, before.inbox.queue⟩) (gate : after.gate = before.gate)
  | received (receiver : Nat) (event : StatusEvent) (rest : List StatusEvent)
      (waiting : before.listener = .waiting receiver)
      (holds : before.inbox = ⟨0, event :: rest⟩) (turned : after.listener = .waiting receiver)
      (inbox : after.inbox = ⟨0, rest⟩) (gate : after.gate = (before.gate.onEvent event).1)

/-- **A step of the listener is one of these.** -/
theorem listened {capacity : Nat} {watching : Watching} (regular : watching.Regular capacity) :
    Listened watching (watching.step .listen) := by
  rcases watching with ⟨around, listener⟩
  rcases listener with _ | receiver | ⟨receiver, left⟩ | receiver | _
  · have inbox := Feed.inbox?_subscribe around.store.events
    exact .subscribed _ rfl rfl (inbox_of_receiver rfl inbox) rfl
  · exact .listed receiver rfl rfl rfl rfl
  · rcases left with _ | ⟨registration, rest⟩
    · exact .caughtUp receiver rfl rfl rfl rfl
    · exact .replayed receiver registration rest rfl rfl rfl rfl
  · have held : around.store.events.inbox? receiver = some _ := regular.held rfl
    have read := Feed.receive_of_inbox? held
    have kept := Feed.inbox?_receive held
    rw [read] at kept
    rcases same : (⟨around, .waiting receiver⟩ : Watching).inbox with ⟨missed, queue⟩
    rw [same] at read kept
    by_cases lost : missed = 0
    · subst lost
      rcases queue with _ | ⟨event, rest⟩
      · exact .idle receiver rfl same (listen_nothing read)
      · rw [Inbox.receive_message] at read kept
        rw [listen_message read]
        exact .received receiver event rest rfl same rfl (inbox_of_receiver rfl kept) rfl
    · rw [Inbox.receive_of_missed lost] at read kept
      rw [listen_lagged read]
      refine .lagged receiver rfl (by rw [same]; exact lost) rfl ?_ rfl
      rw [same]
      exact inbox_of_receiver rfl kept
  · rcases regular.connected with starting | ⟨receiver, inbox, own, held⟩
    · cases starting
    · cases own

/-- What a step of the listener does to the events ahead of it and to the gate: it adds to them what
it lists, or it hands the first of them over. -/
inductive Handed (before after : Watching) : Prop
  | turned (ahead : after.ahead = before.lists.map replayed ++ before.ahead)
      (gate : after.gate = before.gate)
      (later : before.ListsAhead → after.ListsAhead ∨ before.lists = before.store.list)
  | handed (event : StatusEvent) (nothing : before.lists = [])
      (ahead : before.ahead = event :: after.ahead)
      (gate : after.gate = (before.gate.onEvent event).1)
      (later : before.ListsAhead → after.ListsAhead)

theorem Listened.handed {before after : Watching} (step : Listened before after) :
    Handed before after := by
  cases step with
  | subscribed receiver starting turned inbox gate =>
    refine .turned ?_ gate fun _ => Or.inl (Or.inr (Or.inl ⟨receiver, turned⟩))
    simp only [ahead, lists, starting, turned, inbox, inbox_starting starting]
    rfl
  | listed receiver listing turned inbox gate =>
    refine .turned ?_ gate fun _ => Or.inr ?_
    · simp only [ahead, lists, listing, turned, inbox]
      rfl
    · simp only [lists, listing]
  | replayed receiver registration rest replaying turned inbox gate =>
    refine .handed (Listener.replayed registration) ?_ ?_ gate fun later => ?_
    · simp only [lists, replaying]
    · simp only [ahead, replaying, turned, inbox]
      rfl
    · rw [listsAhead_replaying turned, inbox]
      exact (listsAhead_replaying replaying).mp later
  | caughtUp receiver replaying turned inbox gate =>
    refine .turned ?_ gate fun later => Or.inl ?_
    · simp only [ahead, lists, replaying, turned, inbox]
      rfl
    · rw [listsAhead_waiting turned, inbox]
      exact (listsAhead_replaying replaying).mp later
  | idle receiver waiting empty unchanged =>
    refine .turned ?_ (by rw [unchanged]) fun later => Or.inl (by rw [unchanged]; exact later)
    simp only [ahead, lists, waiting, unchanged]
    rfl
  | lagged receiver waiting lost turned inbox gate =>
    refine .turned ?_ gate fun _ => Or.inl (Or.inr (Or.inl ⟨receiver, turned⟩))
    simp only [ahead, lists, waiting, turned, inbox]
    rfl
  | received receiver event rest waiting holds turned inbox gate =>
    refine .handed event ?_ ?_ gate fun later => ?_
    · simp only [lists, waiting]
    · simp only [ahead, waiting, holds, turned, inbox]
      rfl
    · rw [listsAhead_waiting waiting, holds] at later
      exact absurd rfl later

/-- The listener reads from the feed and leaves the registrations alone, and it has an inbox
afterwards. -/
theorem store_listen {capacity : Nat} {watching : Watching} (regular : watching.Regular capacity) :
    ∃ (events : Feed StatusEvent) (receiver : Nat) (inbox : Inbox StatusEvent),
      (watching.step .listen).store = { watching.store with events := events } ∧
        events.capacity = capacity ∧
        (watching.step .listen).listener.receiver? = some receiver ∧
        events.inbox? receiver = some inbox := by
  have same := regular.capacity
  rcases watching with ⟨around, listener⟩
  rcases listener with _ | receiver | ⟨receiver, left⟩ | receiver | _
  · exact ⟨around.store.events.subscribe.1, _, _, rfl, same, rfl,
      Feed.inbox?_subscribe around.store.events⟩
  · exact ⟨around.store.events, receiver, _, rfl, same, rfl, regular.held rfl⟩
  · rcases left with _ | ⟨registration, rest⟩
    · exact ⟨around.store.events, receiver, _, rfl, same, rfl, regular.held rfl⟩
    · exact ⟨around.store.events, receiver, _, rfl, same, rfl, regular.held rfl⟩
  · have kept := Feed.inbox?_receive (regular.held rfl)
    have unchanged := Feed.capacity_receive around.store.events receiver
    rcases read : around.store.events.receive receiver with ⟨received, events⟩
    rw [read] at kept unchanged
    rcases received with count | event | _
    · rw [listen_lagged read]
      exact ⟨events, receiver, _, rfl, unchanged.trans same, rfl, kept⟩
    · rw [listen_message read]
      exact ⟨events, receiver, _, rfl, unchanged.trans same, rfl, kept⟩
    · rw [listen_nothing read]
      exact ⟨around.store.events, receiver, _, rfl, same, rfl, regular.held rfl⟩
  · rcases regular.connected with starting | ⟨receiver, inbox, own, held⟩
    · cases starting
    · cases own

theorem regular_listen {capacity : Nat} {watching : Watching}
    (regular : watching.Regular capacity) : (watching.step .listen).Regular capacity := by
  obtain ⟨events, receiver, inbox, store, capacity, own, held⟩ := store_listen regular
  have gate : (watching.step .listen).gate = watching.gate ∨
      ∃ event, (watching.step .listen).gate = (watching.gate.onEvent event).1 := by
    cases (listened regular).handed with
    | turned ahead gate later => exact Or.inl gate
    | handed event nothing ahead gate later => exact Or.inr ⟨event, gate⟩
  refine ⟨?_, ?_, ?_, ?_, Or.inr ⟨receiver, inbox, own, ?_⟩⟩
  · rw [store]
    exact ⟨regular.sound.keyed, regular.sound.encodable⟩
  · rcases gate with same | ⟨event, handed⟩
    · rw [same]
      exact regular.closed
    · rw [handed, Gate.isClosed_onEvent]
      exact regular.closed
  · rcases gate with same | ⟨event, handed⟩
    · rw [same]
      exact regular.ascending
    · rw [handed]
      exact Gate.ascending_onEvent regular.ascending event
  · rw [store]
    exact capacity
  · rw [store]
    exact held

/-! ### Runs -/

/-- A closed gate takes no seeds, so seeding changes nothing that a run depends on. -/
theorem step_seed {capacity : Nat} {watching : Watching} (regular : watching.Regular capacity)
    (identities : List Identity) : watching.step (.seed identities) = watching := by
  simp only [step, Gate.seed_closed regular.closed, List.append_nil]

/-- **Every move keeps a watching regular.** -/
theorem regular_step {capacity : Nat} {watching : Watching} (regular : watching.Regular capacity)
    (move : Move) : (watching.step move).Regular capacity := by
  cases move with
  | write write => exact regular_write regular write
  | listen => exact regular_listen regular
  | seed identities =>
    rw [step_seed regular]
    exact regular

theorem regular_run {capacity : Nat} {watching : Watching} (regular : watching.Regular capacity)
    (moves : List Move) : (watching.run moves).Regular capacity := by
  induction moves generalizing watching with
  | nil => exact regular
  | cons move rest ih => exact ih (regular_step regular move)

/-- A listener that starts on a new store, beside a gate that was seeded and closed. -/
def started (options : StorageOptions) (name : String) (seeds : List (List Identity)) : Watching :=
  start (Store.new options) (Gate.seeded name seeds)

/-- The watching that a run reaches from there. -/
def reached (options : StorageOptions) (name : String) (seeds : List (List Identity))
    (moves : List Move) : Watching :=
  (started options name seeds).run moves

theorem regular_start {store : Store} (sound : store.Sound) (name : String)
    (seeds : List (List Identity)) :
    (start store (Gate.seeded name seeds)).Regular store.events.capacity where
  sound := sound
  closed := Gate.isClosed_seeded name seeds
  ascending := Gate.ascending_seeded name seeds
  capacity := rfl
  connected := Or.inl rfl

theorem regular_started (options : StorageOptions) (name : String) (seeds : List (List Identity)) :
    (started options name seeds).Regular Store.feedCapacity :=
  regular_start (Store.sound_new options) name seeds

theorem regular_reached (options : StorageOptions) (name : String) (seeds : List (List Identity))
    (moves : List Move) : (reached options name seeds moves).Regular Store.feedCapacity :=
  regular_run (regular_started options name seeds) moves

end Watching

end Aggregation
