/-
**Loops that hooks start, and whether shutdown reaches them.**

A `Launch` is a run of post-start hooks in its atomic steps. Each enabled hook is handed a shutdown
receiver of its own, and is then run; the loop that it starts reads that receiver until a signal
ends it. Between any two steps shutdown may be triggered, which raises the flag and then sends a
signal, loops may leave on their own account, and the state that hooks act on may change. A run is
a list of `Move`s, and every list is a run; without anything in between, the steps come to what
`runAll` does (`run_alone`).

A receiver gets what is sent after it was made. So a loop has a signal to read, or has read one,
exactly if one was sent since its receiver was made (`heard_iff_signalled`): a loop that is started
after the last trigger never hears of the shutdown, although the flag is up
(`not_heard_belated`).
-/

import Aggregation.Hooks
import Aggregation.Proofs.Shutdown
import Mathlib.Data.List.Induction

namespace Aggregation

/-- How far a loop that was started has come. -/
inductive LoopPhase where
  | running
  /-- It has read a signal, or the report of a lost one. -/
  | signalled
  /-- It left on its own account. -/
  | left
deriving DecidableEq

/-- A run of hooks, with the loops that they have started. -/
structure Launch (α σ : Type) where
  shutdown : Shutdown
  state : σ
  /-- The hooks that are still to be run. -/
  due : List (String × α)
  /-- The receiver that was made for the next hook. -/
  ready : Option Nat
  /-- The loops, each under the number of its receiver. -/
  loops : Table Nat LoopPhase
  ran : List String
  failure : Option HookError

namespace Launch

variable {α σ : Type}

/-- A run of hooks that is about to start. -/
def start (hooks : List (String × α)) (ran : List String) (shutdown : Shutdown) (state : σ) :
    Launch α σ :=
  ⟨shutdown, state, hooks, none, Table.empty, ran, none⟩

/-- How the run has ended, once nothing is due. -/
def outcome (launch : Launch α σ) : Except HookError (List String) :=
  match launch.failure with
  | some error => .error error
  | none => .ok launch.ran

/-- An atomic step of a run. -/
inductive Move (σ : Type) where
  /-- A trigger raises the flag. -/
  | raise
  /-- A trigger sends its signal. -/
  | signal
  /-- A receiver is made for the next hook. -/
  | subscribe
  /-- The next hook is run. -/
  | hook
  /-- A loop reads its receiver. -/
  | receive (receiver : Nat)
  /-- A loop leaves on its own account. -/
  | leave (receiver : Nat)
  /-- The state that hooks act on changes. -/
  | work (state : σ)

/-- Makes a receiver for the next hook. -/
def subscribe (launch : Launch α σ) : Launch α σ :=
  match launch.due, launch.ready with
  | _ :: _, none =>
    let (shutdown, receiver) := launch.shutdown.subscribe
    { launch with shutdown := shutdown, ready := some receiver }
  | _, _ => launch

/-- Runs the next hook with its receiver. Whatever it started goes on even if it fails. -/
def hook (act : α → Hook σ) (launch : Launch α σ) : Launch α σ :=
  match launch.due, launch.ready with
  | (name, hook) :: rest, some receiver =>
    let loops := launch.loops.insert receiver .running
    match act hook ⟨launch.shutdown, receiver⟩ launch.state with
    | (state, .ok ()) =>
      { launch with
        state := state, due := rest, ready := none, loops := loops, ran := launch.ran ++ [name] }
    | (state, .error error) =>
      { launch with
        state := state, due := [], ready := none, loops := loops, failure := some error }
  | _, _ => launch

/-- Lets a loop read its receiver; a signal or a loss ends it. -/
def receive (launch : Launch α σ) (receiver : Nat) : Launch α σ :=
  if launch.loops.get? receiver = some .running then
    match launch.shutdown.receive receiver with
    | (.nothing, _) => launch
    | (_, shutdown) =>
      { launch with
        shutdown := shutdown.unsubscribe receiver
        loops := launch.loops.insert receiver .signalled }
  else launch

/-- Lets a loop leave. -/
def leave (launch : Launch α σ) (receiver : Nat) : Launch α σ :=
  if launch.loops.get? receiver = some .running then
    { launch with
      shutdown := launch.shutdown.unsubscribe receiver
      loops := launch.loops.insert receiver .left }
  else launch

/-- The run after a move. -/
def step (act : α → Hook σ) (launch : Launch α σ) : Move σ → Launch α σ
  | .raise => { launch with shutdown := launch.shutdown.raise }
  | .signal => { launch with shutdown := launch.shutdown.signal }
  | .subscribe => launch.subscribe
  | .hook => launch.hook act
  | .receive receiver => launch.receive receiver
  | .leave receiver => launch.leave receiver
  | .work state => { launch with state := state }

/-- The run after several moves. -/
def run (act : α → Hook σ) (launch : Launch α σ) (moves : List (Move σ)) : Launch α σ :=
  moves.foldl (step act) launch

variable {act : α → Hook σ} {launch : Launch α σ}

theorem run_concat (moves : List (Move σ)) (last : Move σ) :
    launch.run act (moves ++ [last]) = (launch.run act moves).step act last :=
  List.foldl_append

/-! ### Hooks that run alone -/

/-- The moves of a run that nothing comes in between of. -/
def alone (hooks : List (String × α)) : List (Move σ) := hooks.flatMap fun _ => [.subscribe, .hook]

theorem run_ended (ended : launch.due = []) (hooks : List (String × α)) :
    launch.run act (alone hooks) = launch := by
  induction hooks with
  | nil => rfl
  | cons entry rest ih =>
    have subscribed : launch.subscribe = launch := by simp only [subscribe, ended]
    have ran : launch.hook act = launch := by simp only [hook, ended]
    show ((launch.subscribe).hook act).run act (alone rest) = launch
    rw [subscribed, ran, ih]

/-- **Without anything in between, the steps come to a whole run of the hooks.** -/
theorem run_alone {hooks : List (String × α)} (due : launch.due = hooks)
    (unready : launch.ready = none) (unfailed : launch.failure = none) :
    (((launch.run act (alone hooks)).shutdown, (launch.run act (alone hooks)).state),
        (launch.run act (alone hooks)).outcome) =
      PostStartHooks.runEach act hooks launch.ran (launch.shutdown, launch.state) := by
  induction hooks generalizing launch with
  | nil => simp only [alone, List.flatMap_nil, run, List.foldl_nil, outcome, unfailed,
      PostStartHooks.runEach]
  | cons entry rest ih =>
    obtain ⟨name, own⟩ := entry
    have first : launch.run act (alone ((name, own) :: rest)) =
        ((launch.subscribe).hook act).run act (alone rest) := rfl
    rcases subscribed : launch.shutdown.subscribe with ⟨shutdown, receiver⟩
    rcases acted : act own ⟨shutdown, receiver⟩ launch.state with ⟨state, error | _⟩
    · have failed : (launch.subscribe.hook act).due = [] := by
        simp only [subscribe, due, unready, subscribed, hook, acted]
      rw [first, run_ended failed]
      simp only [subscribe, due, unready, subscribed, hook, acted, outcome,
        PostStartHooks.runEach]
    · have left : (launch.subscribe.hook act).due = rest := by
        simp only [subscribe, due, unready, subscribed, hook, acted]
      have ranReady : (launch.subscribe.hook act).ready = none := by
        simp only [subscribe, due, unready, subscribed, hook, acted]
      have stillUnfailed : (launch.subscribe.hook act).failure = none := by
        simp only [subscribe, due, unready, subscribed, hook, acted, unfailed]
      rw [first, ih left ranReady stillUnfailed]
      simp only [subscribe, due, unready, subscribed, hook, acted, PostStartHooks.runEach]

/-! ### What a step can do -/

theorem subscribe_cases (launch : Launch α σ) :
    launch.subscribe = launch ∨
      launch.subscribe = { launch with
        shutdown := launch.shutdown.subscribe.1
        ready := some launch.shutdown.made } := by
  unfold subscribe
  split
  · exact Or.inr rfl
  · exact Or.inl rfl

theorem hook_cases (act : α → Hook σ) (launch : Launch α σ) :
    launch.hook act = launch ∨
      ∃ receiver, launch.ready = some receiver ∧ (launch.hook act).shutdown = launch.shutdown ∧
        (launch.hook act).ready = none ∧
        (launch.hook act).loops = launch.loops.insert receiver .running := by
  unfold hook
  split
  · next name own rest receiver due ready =>
    refine Or.inr ⟨receiver, ready, ?_⟩
    split
    · exact ⟨rfl, rfl, rfl⟩
    · exact ⟨rfl, rfl, rfl⟩
  · exact Or.inl rfl

theorem receive_cases (launch : Launch α σ) (receiver : Nat) :
    (launch.loops.get? receiver = some .running ∧
        launch.shutdown.isSignalled receiver = true ∧
        launch.receive receiver = { launch with
          shutdown := (launch.shutdown.receive receiver).2.unsubscribe receiver
          loops := launch.loops.insert receiver .signalled }) ∨
      (launch.loops.get? receiver = some .running →
        launch.shutdown.isSignalled receiver = false) ∧
        launch.receive receiver = launch := by
  have nothing := launch.shutdown.receive_eq_nothing_iff receiver
  unfold receive
  split
  · next runs =>
    split
    · next shutdown read =>
      rw [read] at nothing
      exact Or.inr ⟨fun _ => nothing.mp rfl, rfl⟩
    · next received shutdown something read =>
      rw [read] at nothing
      have signalled := Bool.of_not_eq_false fun silent => something (nothing.mpr silent)
      exact Or.inl ⟨runs, signalled, by rw [read]⟩
  · next stands => exact Or.inr ⟨fun runs => absurd runs stands, rfl⟩

theorem leave_cases (launch : Launch α σ) (receiver : Nat) :
    launch.leave receiver = launch ∨
      launch.loops.get? receiver = some .running ∧
        launch.leave receiver = { launch with
          shutdown := launch.shutdown.unsubscribe receiver
          loops := launch.loops.insert receiver .left } := by
  unfold leave
  split
  · next runs => exact Or.inr ⟨runs, rfl⟩
  · exact Or.inl rfl

/-! ### Receivers -/

/-- The next hook's receiver is no loop's, and the receivers in use were all made. -/
structure Regular (launch : Launch α σ) : Prop where
  fresh : ∀ {receiver}, launch.ready = some receiver → launch.loops.get? receiver = none
  ready : ∀ {receiver}, launch.ready = some receiver → receiver < launch.shutdown.made
  known : ∀ {receiver phase}, launch.loops.get? receiver = some phase →
    receiver < launch.shutdown.made

theorem regular_start (hooks : List (String × α)) (ran : List String) (shutdown : Shutdown)
    (state : σ) : (start hooks ran shutdown state).Regular where
  fresh made := by cases made
  ready made := by cases made
  known listed := by cases listed

/-- A change that makes no receiver, and lists no loop but a known one, keeps a run regular. -/
theorem Regular.update (regular : launch.Regular) {after : Launch α σ} {receiver : Nat}
    {phase : LoopPhase} (listed : launch.loops.get? receiver = some .running)
    (ready : after.ready = launch.ready) (made : after.shutdown.made = launch.shutdown.made)
    (loops : after.loops = launch.loops.insert receiver phase) : after.Regular where
  fresh {other} handed := by
    rw [ready] at handed
    rw [loops, Table.get?_insert, if_neg, regular.fresh handed]
    rintro rfl
    rw [regular.fresh handed] at listed
    cases listed
  ready handed := by
    rw [ready] at handed
    rw [made]
    exact regular.ready handed
  known {other found} shown := by
    rw [made]
    rw [loops, Table.get?_insert] at shown
    split at shown
    · next same => exact same ▸ regular.known listed
    · exact regular.known shown

theorem regular_subscribe (regular : launch.Regular) : launch.subscribe.Regular := by
  rcases subscribe_cases launch with same | subscribed
  · rw [same]
    exact regular
  · rw [subscribed]
    refine ⟨fun {receiver} handed => ?_, fun {receiver} handed => ?_, fun {receiver _} shown => ?_⟩
    · cases handed
      rcases listed : launch.loops.get? launch.shutdown.made with _ | phase
      · rfl
      · exact absurd (regular.known listed) (Nat.lt_irrefl _)
    · cases handed
      rw [Shutdown.made_subscribe]
      exact Nat.lt_succ_self _
    · rw [Shutdown.made_subscribe]
      exact Nat.lt_succ_of_lt (regular.known shown)

theorem regular_hook (regular : launch.Regular) : (launch.hook act).Regular := by
  rcases hook_cases act launch with same | ⟨receiver, handed, shutdown, unready, loops⟩
  · rw [same]
    exact regular
  · refine ⟨fun made => ?_, fun made => ?_, fun {other phase} shown => ?_⟩
    · rw [unready] at made
      cases made
    · rw [unready] at made
      cases made
    · rw [shutdown]
      rw [loops, Table.get?_insert] at shown
      split at shown
      · next same => exact same ▸ regular.ready handed
      · exact regular.known shown

theorem regular_step (regular : launch.Regular) (move : Move σ) :
    (launch.step act move).Regular := by
  cases move with
  | raise => exact ⟨regular.fresh, regular.ready, regular.known⟩
  | signal =>
    have made : launch.shutdown.signal.made = launch.shutdown.made := launch.shutdown.made_signal
    exact ⟨regular.fresh, fun handed => made.symm ▸ regular.ready handed,
      fun shown => made.symm ▸ regular.known shown⟩
  | subscribe => exact regular_subscribe regular
  | hook => exact regular_hook regular
  | receive receiver =>
    rcases receive_cases launch receiver with ⟨runs, -, received⟩ | ⟨-, same⟩
    · show (launch.receive receiver).Regular
      rw [received]
      refine regular.update runs rfl ?_ rfl
      rw [Shutdown.made_unsubscribe, Shutdown.made_receive]
    · show (launch.receive receiver).Regular
      rw [same]
      exact regular
  | leave receiver =>
    rcases leave_cases launch receiver with same | ⟨runs, gone⟩
    · show (launch.leave receiver).Regular
      rw [same]
      exact regular
    · show (launch.leave receiver).Regular
      rw [gone]
      exact regular.update runs rfl (launch.shutdown.made_unsubscribe receiver) rfl
  | work state => exact ⟨regular.fresh, regular.ready, regular.known⟩

theorem regular_run (regular : launch.Regular) (moves : List (Move σ)) :
    (launch.run act moves).Regular := by
  induction moves generalizing launch with
  | nil => exact regular
  | cons move rest ih => exact ih (regular_step regular move)

/-! ### Hearing of the shutdown -/

/-- A loop has a signal to read, or has read one. -/
def Heard (launch : Launch α σ) (receiver : Nat) : Prop :=
  launch.shutdown.isSignalled receiver = true ∨ launch.loops.get? receiver = some .signalled

theorem heard_subscribe (receiver : Nat) :
    launch.subscribe.Heard receiver ↔ launch.Heard receiver := by
  rcases subscribe_cases launch with same | subscribed
  · rw [same]
  · rw [subscribed]
    unfold Heard
    rw [Shutdown.isSignalled_subscribe]

theorem heard_hook (regular : launch.Regular) (receiver : Nat) :
    (launch.hook act).Heard receiver ↔ launch.Heard receiver := by
  rcases hook_cases act launch with same | ⟨own, handed, shutdown, -, loops⟩
  · rw [same]
  · unfold Heard
    rw [shutdown, loops, Table.get?_insert]
    split
    -- The loop that is started had no phase before, so it has not read anything.
    · next same => simp [same, regular.fresh handed]
    · rfl

theorem heard_receive (reader receiver : Nat) :
    (launch.receive reader).Heard receiver ↔ launch.Heard receiver := by
  rcases receive_cases launch reader with ⟨-, signalled, received⟩ | ⟨-, same⟩
  · rw [received]
    unfold Heard
    rw [Table.get?_insert]
    by_cases own : receiver = reader
    · subst own
      simp [signalled]
    · rw [if_neg own, Shutdown.isSignalled_unsubscribe_of_ne own,
        Shutdown.isSignalled_receive_of_ne own]
  · rw [same]

theorem heard_leave {leaver receiver : Nat}
    (stays : (launch.leave leaver).loops.get? receiver ≠ some .left) :
    (launch.leave leaver).Heard receiver ↔ launch.Heard receiver := by
  rcases leave_cases launch leaver with same | ⟨-, gone⟩
  · rw [same]
  · -- The receiver that is given back, with what it holds, is that of a loop that left.
    rw [gone, Table.get?_insert] at stays
    have other : receiver ≠ leaver := fun own => stays (if_pos own)
    rw [gone]
    unfold Heard
    rw [Table.get?_insert, if_neg other, Shutdown.isSignalled_unsubscribe_of_ne other]

/-- **What a step lets a loop hear**: a signal that is sent while its receiver is there. -/
theorem heard_step (regular : launch.Regular) (move : Move σ) {receiver : Nat}
    (stays : (launch.step act move).loops.get? receiver ≠ some .left) :
    (launch.step act move).Heard receiver ↔
      launch.Heard receiver ∨
        move = .signal ∧ launch.shutdown.isSubscribed receiver = true := by
  have silent (other : move ≠ .signal) : launch.Heard receiver ↔
      launch.Heard receiver ∨ move = .signal ∧ launch.shutdown.isSubscribed receiver = true :=
    (or_iff_left fun both => other both.1).symm
  cases move with
  | signal =>
    show launch.shutdown.signal.isSignalled receiver = true ∨ _ ↔ _
    rw [Shutdown.isSignalled_signal]
    constructor
    · rintro (subscribed | signalled)
      · exact Or.inr ⟨rfl, subscribed⟩
      · exact Or.inl (Or.inr signalled)
    · rintro ((waiting | signalled) | ⟨-, subscribed⟩)
      · exact Or.inl (Shutdown.isSubscribed_of_isSignalled waiting)
      · exact Or.inr signalled
      · exact Or.inl subscribed
  | raise | work => exact silent nofun
  | subscribe => exact (heard_subscribe receiver).trans (silent nofun)
  | hook => exact (heard_hook regular receiver).trans (silent nofun)
  | receive reader => exact (heard_receive reader receiver).trans (silent nofun)
  | leave leaver => exact (heard_leave stays).trans (silent nofun)

/-- A loop that has left stays away. -/
theorem left_step (regular : launch.Regular) (move : Move σ) {receiver : Nat}
    (gone : launch.loops.get? receiver = some .left) :
    (launch.step act move).loops.get? receiver = some .left := by
  cases move with
  | raise | signal | work => exact gone
  | subscribe =>
    show launch.subscribe.loops.get? receiver = _
    rcases subscribe_cases launch with same | subscribed
    · rw [same, gone]
    · rw [subscribed]
      exact gone
  | hook =>
    show (launch.hook act).loops.get? receiver = _
    rcases hook_cases act launch with same | ⟨own, handed, -, -, loops⟩
    · rw [same, gone]
    · rw [loops, Table.get?_insert, if_neg, gone]
      rintro rfl
      rw [regular.fresh handed] at gone
      cases gone
  | receive reader =>
    show (launch.receive reader).loops.get? receiver = _
    rcases receive_cases launch reader with ⟨runs, -, received⟩ | ⟨-, same⟩
    · rw [received, Table.get?_insert, if_neg, gone]
      rintro rfl
      rw [gone] at runs
      cases runs
    · rw [same, gone]
  | leave leaver =>
    show (launch.leave leaver).loops.get? receiver = _
    rcases leave_cases launch leaver with same | ⟨-, left⟩
    · rw [same, gone]
    · rw [left, Table.get?_insert]
      split
      · rfl
      · exact gone

/-- **A loop that runs ends with its next read exactly if it has a signal to read.** -/
theorem get?_receive {receiver : Nat} (runs : launch.loops.get? receiver = some .running) :
    (launch.receive receiver).loops.get? receiver = some .signalled ↔ launch.Heard receiver := by
  have unread : launch.Heard receiver ↔ launch.shutdown.isSignalled receiver = true := by
    simp [Heard, runs]
  rw [unread]
  rcases receive_cases launch receiver with ⟨-, signalled, received⟩ | ⟨silent, same⟩
  · rw [received, Table.get?_insert, if_pos rfl]
    exact iff_of_true rfl signalled
  · rw [same, runs, silent runs]
    simp

/-- A signal was sent while the receiver was there. -/
def Reached (act : α → Hook σ) (launch : Launch α σ) (moves : List (Move σ)) (receiver : Nat) :
    Prop :=
  ∃ earlier, earlier ++ [.signal] <+: moves ∧
    (launch.run act earlier).shutdown.isSubscribed receiver = true

theorem reached_concat (moves : List (Move σ)) (last : Move σ) (receiver : Nat) :
    Reached act launch (moves ++ [last]) receiver ↔
      Reached act launch moves receiver ∨
        last = .signal ∧ (launch.run act moves).shutdown.isSubscribed receiver = true := by
  unfold Reached
  constructor
  · rintro ⟨earlier, before, subscribed⟩
    rcases List.prefix_concat_iff.mp before with whole | shorter
    · obtain ⟨rfl, same⟩ := List.append_inj' whole rfl
      exact Or.inr ⟨(List.singleton_inj.mp same).symm, subscribed⟩
    · exact Or.inl ⟨earlier, shorter, subscribed⟩
  · rintro (⟨earlier, before, subscribed⟩ | ⟨rfl, subscribed⟩)
    · exact ⟨earlier, before.trans (List.prefix_append moves [last]), subscribed⟩
    · exact ⟨moves, List.prefix_rfl, subscribed⟩

/-- A loop that stays has heard what it had heard before the run, and the signals that reached it.
-/
theorem heard_run (regular : launch.Regular) (moves : List (Move σ)) {receiver : Nat}
    (stays : (launch.run act moves).loops.get? receiver ≠ some .left) :
    (launch.run act moves).Heard receiver ↔
      launch.Heard receiver ∨ Reached act launch moves receiver := by
  -- The last move is split off, since what reaches a loop depends on the moves before.
  induction moves using List.reverseRecOn with
  | nil =>
    refine (or_iff_left ?_).symm
    rintro ⟨earlier, before, -⟩
    exact absurd (List.prefix_nil.mp before) (List.append_ne_nil_of_right_ne_nil _ (by simp))
  | append_singleton moves last ih =>
    rw [run_concat] at stays ⊢
    have stood : (launch.run act moves).loops.get? receiver ≠ some .left :=
      fun gone => stays (left_step (regular_run regular moves) last gone)
    rw [heard_step (regular_run regular moves) last stays, ih stood, reached_concat, or_assoc]

/-- A run of the hooks of a registry, under a shutdown that nobody has triggered or subscribed to
yet. -/
abbrev launched (act : α → Hook σ) (registry : PostStartHooks α) (state : σ)
    (moves : List (Move σ)) : Launch α σ :=
  (start registry.enabled [] .new state).run act moves

/-- **Which loops hear of the shutdown.** Whatever the hooks are, and however triggers, the run of
the hooks and the loops come in between each other: a loop that was started, and did not leave on
its own account, has a signal to read or has read one exactly if some trigger sent its signal after
the loop's receiver was made. While it runs, its next read ends it exactly in that case. -/
theorem heard_iff_signalled (act : α → Hook σ) (registry : PostStartHooks α) (state : σ)
    (moves : List (Move σ)) {receiver : Nat} {phase : LoopPhase}
    (started : (launched act registry state moves).loops.get? receiver = some phase)
    (stays : phase ≠ .left) :
    ((launched act registry state moves).Heard receiver ↔
        ∃ earlier, earlier ++ [.signal] <+: moves ∧
          (launched act registry state earlier).shutdown.isSubscribed receiver = true) ∧
      (phase = .running →
        ((launched act registry state (moves ++ [.receive receiver])).loops.get? receiver =
            some .signalled ↔
          ∃ earlier, earlier ++ [.signal] <+: moves ∧
            (launched act registry state earlier).shutdown.isSubscribed receiver = true)) := by
  have regular := regular_start registry.enabled [] .new state
  have still : (launched act registry state moves).loops.get? receiver ≠ some .left := by
    rw [started]
    exact fun gone => stays (Option.some.inj gone)
  have unheard : ¬(start registry.enabled [] .new state).Heard receiver := by
    rintro (waiting | signalled)
    · cases waiting
    · cases signalled
  have heard : (launched act registry state moves).Heard receiver ↔
      Reached act (start registry.enabled [] .new state) moves receiver := by
    rw [launched, heard_run regular moves still, or_iff_right unheard]
  refine ⟨heard, fun runs => ?_⟩
  rw [launched, run_concat]
  exact (get?_receive (runs ▸ started)).trans heard

/-- A hook that starts a loop, and nothing else. -/
def spawn : Hook Unit := fun _ state => (state, .ok ())

/-- Two hooks, each of which starts a loop. -/
def pair : PostStartHooks (Hook Unit) := ⟨Table.ofList [("late", spawn), ("early", spawn)], []⟩

theorem enabled_pair : pair.enabled = [("early", spawn), ("late", spawn)] := by
  have entries : pair.hooks.entries = [("late", spawn), ("early", spawn)] := rfl
  have later : (compare "late" "early").isLE = false := by decide
  unfold PostStartHooks.enabled
  rw [entries]
  simp [List.mergeSort, later, pair]

theorem launched_pair (moves : List (Move Unit)) :
    launched id pair () moves =
      run id (start [("early", spawn), ("late", spawn)] [] .new ()) moves := by
  rw [launched, enabled_pair]

/-- Shutdown is triggered after the first hook has been run, and before the second. -/
def between : List (Move Unit) := [.subscribe, .hook, .raise, .signal, .subscribe, .hook]

/-- The loop of the first hook has a signal to read, and ends with its next read. -/
theorem heard_iff_signalled_between :
    (launched id pair () between).loops.get? 0 = some .running ∧
      (launched id pair () between).Heard 0 ∧
      (launched id pair () (between ++ [.receive 0])).loops.get? 0 = some .signalled := by
  have started : (launched id pair () between).loops.get? 0 = some .running := by
    rw [launched_pair]
    rfl
  have sent : [.subscribe, .hook, .raise] ++ [.signal] <+: between := ⟨[.subscribe, .hook], rfl⟩
  have there :
      (launched id pair () [.subscribe, .hook, .raise]).shutdown.isSubscribed 0 = true := by
    rw [launched_pair]
    rfl
  obtain ⟨heard, ends⟩ := heard_iff_signalled id pair () between started nofun
  exact ⟨started, heard.mpr ⟨_, sent, there⟩, (ends rfl).mpr ⟨_, sent, there⟩⟩

/-- Shutdown is triggered before any hook has been run. -/
def belated : List (Move Unit) := [.raise, .signal, .subscribe, .hook]

/-- Shutdown was triggered, and the loop that is started runs on without a signal to read. -/
theorem not_heard_belated :
    (launched id pair () belated).shutdown.triggered = true ∧
      (launched id pair () belated).loops.get? 0 = some .running ∧
      ¬(launched id pair () belated).Heard 0 := by
  have runs : (launched id pair () belated).loops.get? 0 = some .running := by
    rw [launched_pair]
    rfl
  have silent : (launched id pair () belated).shutdown.isSignalled 0 = false := by
    rw [launched_pair]
    rfl
  have triggered : (launched id pair () belated).shutdown.triggered = true := by
    rw [launched_pair]
    rfl
  refine ⟨triggered, runs, ?_⟩
  rintro (waiting | signalled)
  · rw [silent] at waiting
    cases waiting
  · rw [runs] at signalled
    cases signalled

end Launch

end Aggregation
