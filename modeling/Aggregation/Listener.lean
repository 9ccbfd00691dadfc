/-
**The status listener.**

The listener brings the status events of a store to a gate. It subscribes to the feed first and then
lists the registrations, handing the condition of each to the gate, so that nothing between the two
is lost; after that it handles one event after the other. When the feed reports a loss it lists the
registrations again. `Listener.step` is one atomic step, so that any other work on the store may
come between two of them.
-/

import Aggregation.Gate
import Aggregation.Store.Basic

namespace Aggregation

/-- How far the listener has come. -/
inductive Listener where
  | starting
  | listing (receiver : Nat)
  | replaying (receiver : Nat) (left : List Registration)
  | waiting (receiver : Nat)
  | stopped

namespace Listener

/-- The state that the listener reads and writes, with what was observed on the way. -/
structure Surroundings where
  store : Store
  gate : Gate
  observed : List Observation

/-- Hands a condition to the gate. -/
def dispatch (around : Surroundings) (event : StatusEvent) : Surroundings :=
  let (gate, _, observed) := around.gate.onEvent event
  { around with
    gate := gate
    observed := around.observed ++ .statusEvent event.available :: observed }

/-- The condition of a registration as an event. -/
def replayed (registration : Registration) : StatusEvent :=
  ⟨registration.descriptor.identity, registration.available⟩

/-- One atomic step. A listener that has nothing to receive stays where it is. -/
def step (around : Surroundings) : Listener → Surroundings × Listener
  | starting =>
    let (store, receiver) := around.store.subscribe
    ({ around with store := store }, listing receiver)
  | listing receiver => (around, replaying receiver around.store.list)
  | replaying receiver [] => (around, waiting receiver)
  | replaying receiver (registration :: rest) =>
    (dispatch around (replayed registration), replaying receiver rest)
  | waiting receiver =>
    match around.store.events.receive receiver with
    | (.nothing, _) => (around, waiting receiver)
    | (.lagged _, events) =>
      ({ around with store := { around.store with events := events } }, listing receiver)
    | (.message event, events) =>
      (dispatch { around with store := { around.store with events := events } } event,
        waiting receiver)
  | stopped => (around, stopped)

/-- Whether the listener has nothing to do for now. -/
def isIdle (store : Store) : Listener → Bool
  | waiting receiver => !store.events.hasNews receiver
  | stopped => true
  | _ => false

/-- The number of events that a receiver has yet to read. -/
def unread (store : Store) (receiver : Nat) : Nat :=
  (store.events.inbox? receiver).elim 0 fun inbox => inbox.queue.length

/-- A number of steps after which the listener has nothing to do, if nobody else works on the
store. -/
def bound (store : Store) : Listener → Nat
  | starting => store.records.size + 4
  | listing receiver => unread store receiver + 2 * store.records.size + 6
  | replaying receiver left => left.length + unread store receiver + store.records.size + 5
  | waiting receiver => unread store receiver + store.records.size + 4
  | stopped => 0

/-- Steps until there is nothing to do, at most so many times. -/
def runFor : Nat → Surroundings → Listener → Surroundings × Listener
  | 0, around, listener => (around, listener)
  | fuel + 1, around, listener =>
    if listener.isIdle around.store then (around, listener)
    else
      let (around, listener) := listener.step around
      runFor fuel around listener

/-- Steps until there is nothing to do. -/
def run (around : Surroundings) (listener : Listener) : Surroundings × Listener :=
  runFor (listener.bound around.store) around listener

end Listener

end Aggregation
