/-
**No call that waits misses the trigger.**

Calls that wait for the shutdown and calls that trigger it come in any number, and their atomic
steps in any order: a run is a list of `Move`s, and every list is a run. A waiting call subscribes,
looks at the flag, and then receives; a triggering call raises the flag and then sends.

Whatever the order, the calls stay `Regular`. A call that waits on its receiver has seen the flag
down after it subscribed, so every trigger sends to it later: once one is through, there is
something to receive (`Regular.woken`). The receiver is the call's own, so no other call takes it
away. Nothing is sent, and no call returns, before the flag is up.

`woken_run` says what this comes to: once a trigger is through, no call is left blocked, and three
further steps of its own, whatever happens in between, let it return.
-/

import Aggregation.Proofs.Shutdown
import Mathlib.Logic.Function.Basic

namespace Aggregation

namespace Shutdown

/-- The receiver that a waiting call holds. -/
def Wait.receiver? : Wait → Option Nat
  | subscribed receiver => some receiver
  | waiting receiver => some receiver
  | _ => none

/-- The most steps that a call takes once there is nothing to wait for. -/
def Wait.stepsLeft : Wait → Nat
  | starting => 3
  | subscribed _ => 2
  | waiting _ => 1
  | returned => 0

theorem Wait.eq_returned_of_stepsLeft {wait : Wait} (none : wait.stepsLeft = 0) :
    wait = .returned := by
  cases wait with
  | starting | subscribed | waiting => cases none
  | returned => rfl

/-- How far a call that triggers the shutdown has come. -/
inductive Trigger where
  | starting
  | raised
  | finished
deriving DecidableEq

/-- One atomic step of a triggering call. -/
def Trigger.step (shutdown : Shutdown) : Trigger → Shutdown × Trigger
  | starting => (shutdown.raise, raised)
  | raised => (shutdown.signal, finished)
  | finished => (shutdown, finished)

/-- Without anything in between, the steps come to a whole trigger. -/
theorem Trigger.step_step (shutdown : Shutdown) :
    (starting.step shutdown).2.step (starting.step shutdown).1 = (shutdown.trigger, finished) := rfl

/-- A shutdown with the calls that wait for it and the calls that trigger it. The calls are
numbered, and one that nobody has made yet is starting. -/
structure Calls where
  shutdown : Shutdown
  waits : Nat → Wait
  triggers : Nat → Trigger

namespace Calls

/-- Nothing has happened yet. -/
def start : Calls := ⟨.new, fun _ => .starting, fun _ => .starting⟩

/-- The next atomic step of a call. -/
inductive Move where
  | wait (call : Nat)
  | trigger (call : Nat)
deriving DecidableEq

/-- The calls after a move. -/
def step (calls : Calls) : Move → Calls
  | .wait call =>
    let (shutdown, wait) := (calls.waits call).step calls.shutdown
    { calls with shutdown := shutdown, waits := Function.update calls.waits call wait }
  | .trigger call =>
    let (shutdown, trigger) := (calls.triggers call).step calls.shutdown
    { calls with shutdown := shutdown, triggers := Function.update calls.triggers call trigger }

/-- The calls after a run. -/
def run (calls : Calls) (moves : List Move) : Calls := moves.foldl step calls

/-- Some trigger is through. -/
def IsTriggered (calls : Calls) : Prop := ∃ call, calls.triggers call = .finished

variable {calls : Calls}

/-! ### What a step can do -/

/-- A receiver was given back, and nothing else was changed. -/
structure GivesBack (before : Shutdown) (receiver : Nat) (after : Shutdown) : Prop where
  flag : after.triggered = before.triggered
  subscribed : ∀ {other}, other ≠ receiver → after.isSubscribed other = before.isSubscribed other
  signalled : ∀ {other}, other ≠ receiver → after.isSignalled other = before.isSignalled other

theorem givesBack_unsubscribe (shutdown : Shutdown) (receiver : Nat) :
    GivesBack shutdown receiver (shutdown.unsubscribe receiver) where
  flag := rfl
  subscribed := isSubscribed_unsubscribe_of_ne
  signalled := isSignalled_unsubscribe_of_ne

/-- What the receiver held is lost with it, so it may have been read before. -/
theorem givesBack_receive (shutdown : Shutdown) (receiver : Nat) :
    GivesBack shutdown receiver ((shutdown.receive receiver).2.unsubscribe receiver) where
  flag := rfl
  subscribed distinct := by
    rw [isSubscribed_unsubscribe_of_ne distinct, isSubscribed_receive_of_ne distinct]
  signalled distinct := by
    rw [isSignalled_unsubscribe_of_ne distinct, isSignalled_receive_of_ne distinct]

/-- What a step of a waiting call comes to. -/
inductive Waits (calls : Calls) (call : Nat) (after : Calls) : Prop
  | subscribes (starting : calls.waits call = .starting)
      (result : after = ⟨calls.shutdown.subscribe.1,
        Function.update calls.waits call (.subscribed calls.shutdown.made), calls.triggers⟩)
  /-- The flag is down, so the call goes on to receive. -/
  | looks (receiver : Nat) (subscribed : calls.waits call = .subscribed receiver)
      (down : calls.shutdown.triggered = false)
      (result : after =
        ⟨calls.shutdown, Function.update calls.waits call (.waiting receiver), calls.triggers⟩)
  /-- The flag is up, or there is something to receive. -/
  | returns (receiver : Nat) (own : (calls.waits call).receiver? = some receiver)
      (cause : calls.shutdown.triggered = true ∨ calls.shutdown.isSignalled receiver = true)
      (shutdown : Shutdown) (givesBack : GivesBack calls.shutdown receiver shutdown)
      (result : after =
        ⟨shutdown, Function.update calls.waits call .returned, calls.triggers⟩)
  /-- The call has returned, or there is nothing to receive. -/
  | stays (idle : calls.waits call = .returned ∨ ∃ receiver,
        calls.waits call = .waiting receiver ∧ calls.shutdown.isSignalled receiver = false)
      (result : after = calls)

/-- **A step of a waiting call is one of these.** -/
theorem waits_step (calls : Calls) (call : Nat) : Waits calls call (calls.step (.wait call)) := by
  rcases phase : calls.waits call with _ | receiver | receiver | _
  · refine .subscribes phase ?_
    simp only [step, phase, Wait.step]
    rfl
  · by_cases raised : calls.shutdown.triggered = true
    · refine .returns receiver (by rw [phase]; rfl) (Or.inl raised) _
        (givesBack_unsubscribe calls.shutdown receiver) ?_
      simp only [step, phase, Wait.step, if_pos raised]
    · refine .looks receiver phase (Bool.eq_false_iff.mpr raised) ?_
      simp only [step, phase, Wait.step, if_neg raised]
  · have nothing := calls.shutdown.receive_eq_nothing_iff receiver
    have givesBack := givesBack_receive calls.shutdown receiver
    rcases read : calls.shutdown.receive receiver with ⟨received, shutdown⟩
    rw [read] at nothing givesBack
    by_cases empty : received = .nothing
    · refine .stays (Or.inr ⟨receiver, phase, nothing.mp empty⟩) ?_
      simp only [step, phase, Wait.step, read, empty]
      rw [← phase, Function.update_eq_self]
    · have signalled := Bool.of_not_eq_false fun silent => empty (nothing.mpr silent)
      refine .returns receiver (by rw [phase]; rfl) (Or.inr signalled) _ givesBack ?_
      simp only [step, phase, Wait.step, read]
  · refine .stays (Or.inl phase) ?_
    simp only [step, phase, Wait.step]
    rw [← phase, Function.update_eq_self]

/-! ### What every step preserves -/

/-- What holds of the calls in every run. -/
structure Regular (calls : Calls) : Prop where
  /-- No two calls hold the same receiver. -/
  own : ∀ {call other receiver}, (calls.waits call).receiver? = some receiver →
    (calls.waits other).receiver? = some receiver → call = other
  /-- A receiver that a call holds was made and not given back. -/
  subscribed : ∀ {call receiver}, (calls.waits call).receiver? = some receiver →
    calls.shutdown.isSubscribed receiver = true
  /-- The flag is up once some trigger has begun. -/
  flag : calls.shutdown.triggered = true ↔ ∃ call, calls.triggers call ≠ .starting
  /-- Nothing is sent before the flag is up. -/
  silent : ∀ {receiver}, calls.shutdown.isSignalled receiver = true →
    calls.shutdown.triggered = true
  /-- No call returns before the flag is up. -/
  returned : ∀ {call}, calls.waits call = .returned → calls.shutdown.triggered = true
  /-- Once some trigger is through, a call that waits has something to receive. -/
  woken : calls.IsTriggered → ∀ {call receiver}, calls.waits call = .waiting receiver →
    calls.shutdown.isSignalled receiver = true

theorem regular_start : start.Regular where
  own held := by cases held
  subscribed held := by cases held
  flag := by simp [start, Shutdown.new]
  silent signalled := by cases signalled
  returned phase := by cases phase
  woken triggered := by
    obtain ⟨call, finished⟩ := triggered
    cases finished

theorem Regular.triggered (regular : calls.Regular) (triggered : calls.IsTriggered) :
    calls.shutdown.triggered = true := by
  obtain ⟨call, finished⟩ := triggered
  exact regular.flag.mpr ⟨call, by rw [finished]; nofun⟩

/-- A waiting call goes on, and leaves the receivers of the others to them. -/
theorem Regular.update (regular : calls.Regular) {call : Nat} {wait : Wait} {shutdown : Shutdown}
    (own : ∀ receiver, wait.receiver? = some receiver → shutdown.isSubscribed receiver = true ∧
      ∀ other, (calls.waits other).receiver? = some receiver → other = call)
    (others : ∀ other receiver, other ≠ call → (calls.waits other).receiver? = some receiver →
      shutdown.isSubscribed receiver = calls.shutdown.isSubscribed receiver ∧
        shutdown.isSignalled receiver = calls.shutdown.isSignalled receiver)
    (flag : shutdown.triggered = calls.shutdown.triggered)
    (silent : ∀ receiver, shutdown.isSignalled receiver = true →
      calls.shutdown.triggered = true)
    (returned : wait = .returned → calls.shutdown.triggered = true)
    (woken : calls.IsTriggered → ∀ receiver, wait = .waiting receiver →
      shutdown.isSignalled receiver = true) :
    Regular ⟨shutdown, Function.update calls.waits call wait, calls.triggers⟩ := by
  have self : Function.update calls.waits call wait call = wait := Function.update_self _ _ _
  have rest {other : Nat} (distinct : other ≠ call) :
      Function.update calls.waits call wait other = calls.waits other :=
    Function.update_of_ne distinct _ _
  refine ⟨fun {first second receiver} held also => ?_, fun {other receiver} held => ?_, ?_,
    fun {receiver} signalled => flag.trans (silent receiver signalled), fun {other} phase => ?_,
    fun triggered {other receiver} phase => ?_⟩
  · dsimp only at held also
    by_cases equal : first = call
    · subst equal
      rw [self] at held
      by_cases same : second = first
      · exact same.symm
      · rw [rest same] at also
        exact ((own receiver held).2 second also).symm
    · rw [rest equal] at held
      by_cases same : second = call
      · subst same
        rw [self] at also
        exact (own receiver also).2 first held
      · rw [rest same] at also
        exact regular.own held also
  · dsimp only at held ⊢
    by_cases equal : other = call
    · subst equal
      rw [self] at held
      exact (own receiver held).1
    · rw [rest equal] at held
      rw [(others other receiver equal held).1]
      exact regular.subscribed held
  · dsimp only
    rw [flag]
    exact regular.flag
  · dsimp only at phase ⊢
    rw [flag]
    by_cases equal : other = call
    · subst equal
      rw [self] at phase
      exact returned phase
    · rw [rest equal] at phase
      exact regular.returned phase
  · dsimp only at phase ⊢
    by_cases equal : other = call
    · subst equal
      rw [self] at phase
      exact woken triggered receiver phase
    · rw [rest equal] at phase
      rw [(others other receiver equal (by rw [phase]; rfl)).2]
      exact regular.woken triggered phase

/-- **A step of a waiting call keeps the calls regular.** -/
theorem regular_wait (regular : calls.Regular) (call : Nat) :
    (calls.step (.wait call)).Regular := by
  cases waits_step calls call with
  | subscribes starting result =>
    rw [result]
    have fresh {other receiver : Nat} (held : (calls.waits other).receiver? = some receiver) :
        receiver ≠ calls.shutdown.made :=
      Nat.ne_of_lt (lt_made_of_isSubscribed (regular.subscribed held))
    refine regular.update (fun receiver held => ?_) (fun other receiver _ held => ?_) rfl
      (fun receiver signalled => ?_) nofun nofun
    · cases held
      refine ⟨?_, fun other also => absurd rfl (fresh also)⟩
      rw [isSubscribed_subscribe, decide_eq_true rfl, Bool.true_or]
    · rw [isSubscribed_subscribe, isSignalled_subscribe, decide_eq_false (fresh held),
        Bool.false_or]
      exact ⟨rfl, rfl⟩
    · rw [isSignalled_subscribe] at signalled
      exact regular.silent signalled
  | looks receiver subscribed down result =>
    rw [result]
    have own : (calls.waits call).receiver? = some receiver := by rw [subscribed]; rfl
    refine regular.update (fun _ held => ?_) (fun _ _ _ _ => ⟨rfl, rfl⟩) rfl
      (fun _ => regular.silent) nofun (fun triggered => ?_)
    · cases held
      exact ⟨regular.subscribed own, fun other also => regular.own also own⟩
    · -- No trigger is through yet: the flag would be up.
      rw [regular.triggered triggered] at down
      cases down
  | returns receiver own cause shutdown givesBack result =>
    rw [result]
    have raised : calls.shutdown.triggered = true := cause.elim id regular.silent
    refine regular.update nofun (fun other held distinct also => ?_) givesBack.flag
      (fun _ _ => raised) (fun _ => raised) nofun
    have apart : held ≠ receiver := by
      rintro rfl
      exact distinct (regular.own also own)
    exact ⟨givesBack.subscribed apart, givesBack.signalled apart⟩
  | stays idle result =>
    rw [result]
    exact regular

/-- **A step of a trigger keeps the calls regular**: its signal reaches every call that waits. -/
theorem regular_trigger (regular : calls.Regular) (call : Nat) :
    (calls.step (.trigger call)).Regular := by
  rcases phase : calls.triggers call with _ | _ | _
  · have raised : calls.step (.trigger call) = ⟨calls.shutdown.raise, calls.waits,
        Function.update calls.triggers call .raised⟩ := by
      simp only [step, phase, Trigger.step]
    rw [raised]
    refine ⟨regular.own, regular.subscribed, ?_, fun _ => rfl, fun _ => rfl, fun triggered => ?_⟩
    · exact iff_of_true rfl ⟨call, by simp⟩
    · -- A trigger that is through was so before.
      obtain ⟨other, finished⟩ := triggered
      dsimp only at finished
      rw [Function.update_apply] at finished
      split at finished
      · cases finished
      · exact regular.woken ⟨other, finished⟩
  · have sent : calls.step (.trigger call) = ⟨calls.shutdown.signal, calls.waits,
        Function.update calls.triggers call .finished⟩ := by
      simp only [step, phase, Trigger.step]
    have raised : calls.shutdown.triggered = true :=
      regular.flag.mpr ⟨call, by rw [phase]; nofun⟩
    rw [sent]
    refine ⟨regular.own, fun {other receiver} held => ?_, ?_, fun _ => raised, fun _ => raised,
      fun _ {other receiver} waiting => ?_⟩
    · dsimp only
      rw [isSubscribed_signal]
      exact regular.subscribed held
    · exact iff_of_true raised ⟨call, by simp⟩
    · dsimp only at waiting ⊢
      rw [isSignalled_signal]
      exact regular.subscribed (by rw [waiting]; rfl)
  · have same : calls.step (.trigger call) = calls := by
      simp only [step, phase, Trigger.step]
      rw [← phase, Function.update_eq_self]
    rw [same]
    exact regular

theorem regular_step (regular : calls.Regular) (move : Move) : (calls.step move).Regular := by
  cases move with
  | wait call => exact regular_wait regular call
  | trigger call => exact regular_trigger regular call

theorem regular_run (regular : calls.Regular) (moves : List Move) : (calls.run moves).Regular := by
  induction moves generalizing calls with
  | nil => exact regular
  | cons move rest ih => exact ih (regular_step regular move)

/-! ### Calls that return -/

/-- A trigger that is through stays so. -/
theorem isTriggered_step (triggered : calls.IsTriggered) (move : Move) :
    (calls.step move).IsTriggered := by
  obtain ⟨call, finished⟩ := triggered
  refine ⟨call, ?_⟩
  cases move with
  | wait other => exact finished
  | trigger other =>
    show Function.update calls.triggers other _ call = _
    rw [Function.update_apply]
    split
    · next same =>
      subst same
      rw [finished]
    · exact finished

/-- A step of another call leaves a call where it is. -/
theorem waits_step_of_ne {move : Move} {call : Nat} (other : move ≠ .wait call) :
    (calls.step move).waits call = calls.waits call := by
  cases move with
  | wait moved =>
    refine Function.update_of_ne ?_ _ _
    rintro rfl
    exact other rfl
  | trigger moved => rfl

/-- **Once a trigger is through, every step of its own brings a call nearer to its return.** -/
theorem stepsLeft_step (regular : calls.Regular) (triggered : calls.IsTriggered) (call : Nat) :
    ((calls.step (.wait call)).waits call).stepsLeft ≤ (calls.waits call).stepsLeft - 1 := by
  have raised := regular.triggered triggered
  cases waits_step calls call with
  | subscribes starting result =>
    rw [result, starting]
    dsimp only
    rw [Function.update_self]
    exact Nat.le_refl 2
  | looks receiver subscribed down result =>
    rw [raised] at down
    cases down
  | returns receiver own cause shutdown givesBack result =>
    rw [result]
    dsimp only
    rw [Function.update_self]
    exact Nat.zero_le _
  | stays idle result =>
    rcases idle with returned | ⟨receiver, waiting, silent⟩
    · rw [result, returned]
      exact Nat.le_refl 0
    · rw [regular.woken triggered waiting] at silent
      cases silent

/-- A call returns within the steps that it has left, whatever the others do in between. -/
theorem returned_run (regular : calls.Regular) (triggered : calls.IsTriggered) {call : Nat}
    {moves : List Move} (enough : (calls.waits call).stepsLeft ≤ moves.count (.wait call)) :
    (calls.run moves).waits call = .returned := by
  induction moves generalizing calls with
  | nil => exact Wait.eq_returned_of_stepsLeft (Nat.le_zero.mp enough)
  | cons move rest ih =>
    refine ih (regular_step regular move) (isTriggered_step triggered move) ?_
    rw [List.count_cons] at enough
    by_cases own : move = .wait call
    · subst own
      have nearer := stepsLeft_step regular triggered call
      rw [if_pos (beq_self_eq_true _)] at enough
      omega
    · rw [waits_step_of_ne own]
      rw [if_neg (by simpa using own)] at enough
      exact enough

/-- **No call that waits misses the trigger.** In every state that any calls, waiting and
triggering, reach in any order of their atomic steps:

* once some trigger is through, each waiting call has returned, or has yet to look at the flag,
  which is up, or has a signal or the report of a lost one to receive;
* three further steps of its own then let it return, whatever the other calls do in between;
* a call has returned only if some trigger has begun. -/
theorem woken_run (moves : List Move) :
    let calls := start.run moves
    (calls.IsTriggered → ∀ call,
      calls.waits call = .returned ∨
      (calls.waits call = .starting ∨ ∃ receiver, calls.waits call = .subscribed receiver) ∧
        calls.shutdown.triggered = true ∨
      ∃ receiver, calls.waits call = .waiting receiver ∧
        (calls.shutdown.receive receiver).1 ≠ .nothing) ∧
    (calls.IsTriggered → ∀ call later, 3 ≤ later.count (.wait call) →
      (calls.run later).waits call = .returned) ∧
    ∀ call, calls.waits call = .returned → ∃ trigger, calls.triggers trigger ≠ .starting := by
  intro calls
  have regular : calls.Regular := regular_run regular_start moves
  refine ⟨fun triggered call => ?_, fun triggered call later enough => ?_, fun call returned => ?_⟩
  · have raised := regular.triggered triggered
    rcases phase : calls.waits call with _ | receiver | receiver | _
    · exact Or.inr (Or.inl ⟨Or.inl rfl, raised⟩)
    · exact Or.inr (Or.inl ⟨Or.inr ⟨receiver, rfl⟩, raised⟩)
    · refine Or.inr (Or.inr ⟨receiver, rfl, fun nothing => ?_⟩)
      rw [receive_eq_nothing_iff, regular.woken triggered phase] at nothing
      cases nothing
    · exact Or.inl rfl
  · refine returned_run regular triggered (Nat.le_trans ?_ enough)
    cases calls.waits call <;> simp [Wait.stepsLeft]
  · exact regular.flag.mp (regular.returned returned)

/-- A second signal overwrites the first one that a call has yet to read, and the loss is reported
to it. -/
example :
    let calls := start.run [.wait 0, .wait 0, .trigger 0, .trigger 0, .trigger 1, .trigger 1]
    calls.waits 0 = .waiting 0 ∧ (calls.shutdown.receive 0).1 = .lagged 1 ∧
      (calls.step (.wait 0)).waits 0 = .returned :=
  ⟨rfl, rfl, rfl⟩

end Calls

end Shutdown

end Aggregation
