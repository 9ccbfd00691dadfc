/-
**Which hooks run, and in which order.**

Hooks are added and disabled in any order, and then run. What was registered can be read off the
calls: of the hooks that were added under a name the first counts, the later ones were refused, and
a name that was ever disabled does not run (`get?_callAll`, `mem_disabled_callAll`). The enabled
hooks come in strictly ascending order of their names (`ascending_enabled`).

`Ends` says what a run of given hooks comes to, without the loop that runs them: each of them is
invoked and succeeds, or they are invoked up to the first that fails. A run always ends in one of
these ways (`exists_ends`), and the answer of the loop is the one that it says (`runEach_of_ends`).
Which hooks were invoked is observed by hooks that take note of themselves: `noted`.
-/

import Aggregation.Hooks
import Aggregation.Proofs.Sorting

namespace Aggregation

namespace PostStartHooks

variable {α σ : Type}

/-! ### Calls -/

/-- A call on a registry of hooks. -/
inductive Call (α : Type) where
  | add (name : String) (hook : α)
  | disable (name : String)

/-- What a call makes of the registry, and how it ends; one that is refused changes nothing. -/
def call (registry : PostStartHooks α) : Call α → PostStartHooks α × Except HookError Unit
  | .add name hook =>
    match registry.add name hook with
    | .error error => (registry, .error error)
    | .ok extended => (extended, .ok ())
  | .disable name => (registry.disable name, .ok ())

/-- The registry after several calls, however they ended. -/
def callAll (registry : PostStartHooks α) (calls : List (Call α)) : PostStartHooks α :=
  calls.foldl (fun registry next => (registry.call next).1) registry

/-- The hook that a call adds under a name. -/
def Call.added? (name : String) : Call α → Option α
  | add other hook => if other = name then some hook else none
  | disable _ => none

/-- The first hook that calls add under a name. -/
def firstAdded? (calls : List (Call α)) (name : String) : Option α :=
  calls.findSome? (Call.added? name)

/-- A name that is taken is refused, and the registry stays as it is. -/
theorem call_add_of_taken {registry : PostStartHooks α} {name : String} {hook : α}
    (taken : registry.hooks.contains name = true) :
    registry.call (.add name hook) = (registry, .error (.duplicate name)) := by
  rw [call, add, if_pos taken]

/-- A name that is free takes the hook. -/
theorem call_add_of_free {registry : PostStartHooks α} {name : String} {hook : α}
    (free : registry.hooks.contains name = false) :
    registry.call (.add name hook) =
      ({ registry with hooks := registry.hooks.insert name hook }, .ok ()) := by
  rw [call, add, if_neg (by simp [free])]

/-- A call leaves the hook of a name as it is, or adds the first one. -/
theorem get?_call (registry : PostStartHooks α) (next : Call α) (name : String) :
    (registry.call next).1.hooks.get? name = (registry.hooks.get? name).or (next.added? name) := by
  cases next with
  | add other hook =>
    rcases known : registry.hooks.get? other with _ | first
    · rw [call_add_of_free (by rw [Table.contains, known]; rfl), Table.get?_insert, Call.added?]
      by_cases same : name = other
      · subst same
        simp [known]
      · rw [if_neg same, if_neg fun equal => same equal.symm, Option.or_none]
    · rw [call_add_of_taken (by rw [Table.contains, known]; rfl), Call.added?]
      by_cases same : other = name
      · subst same
        simp [known]
      · rw [if_neg same, Option.or_none]
  | disable other =>
    rw [call, disable, Call.added?, Option.or_none]
    split <;> rfl

/-- **Of the hooks that are added under a name, the first counts.** -/
theorem get?_callAll (registry : PostStartHooks α) (calls : List (Call α)) (name : String) :
    (registry.callAll calls).hooks.get? name =
      (registry.hooks.get? name).or (firstAdded? calls name) := by
  induction calls generalizing registry with
  | nil => exact (Option.or_none).symm
  | cons next rest ih =>
    show ((registry.call next).1.callAll rest).hooks.get? name = _
    rw [ih, get?_call, Option.or_assoc, firstAdded?, firstAdded?, List.findSome?_cons]
    rcases next.added? name with _ | hook <;> rfl

theorem mem_disabled_call (registry : PostStartHooks α) (next : Call α) (name : String) :
    name ∈ (registry.call next).1.disabled ↔
      name ∈ registry.disabled ∨ next = .disable name := by
  cases next with
  | add other hook =>
    have same : (registry.call (.add other hook)).1.disabled = registry.disabled := by
      by_cases taken : registry.hooks.contains other = true
      · rw [call_add_of_taken taken]
      · rw [call_add_of_free (Bool.eq_false_iff.mpr taken)]
    simp [same]
  | disable other =>
    rw [call, disable]
    split
    · next known =>
      constructor
      · exact Or.inl
      · rintro (member | same)
        · exact member
        · cases same
          exact known
    · simp [eq_comm]

/-- The names that do not run are those that were ever disabled. -/
theorem mem_disabled_callAll (registry : PostStartHooks α) (calls : List (Call α)) (name : String) :
    name ∈ (registry.callAll calls).disabled ↔
      name ∈ registry.disabled ∨ .disable name ∈ calls := by
  induction calls generalizing registry with
  | nil => simp [callAll]
  | cons next rest ih =>
    show name ∈ ((registry.call next).1.callAll rest).disabled ↔ _
    rw [ih, mem_disabled_call, or_assoc, List.mem_cons, eq_comm]

/-! ### Enabled hooks -/

theorem mem_enabled (registry : PostStartHooks α) (name : String) (hook : α) :
    (name, hook) ∈ registry.enabled ↔
      registry.hooks.get? name = some hook ∧ name ∉ registry.disabled := by
  unfold enabled
  rw [List.mem_filter, List.mem_mergeSort, Table.mem_entries_iff]
  simp

/-- **The enabled hooks come in strictly ascending order of their names.** -/
theorem ascending_enabled (registry : PostStartHooks α) :
    registry.enabled.Pairwise fun a b => a.1 < b.1 := by
  refine List.Pairwise.filter _ ?_
  have sorted : (registry.hooks.entries.mergeSort fun a b => (compare a.1 b.1).isLE).Pairwise
      fun a b => compare a.1 b.1 = .lt :=
    Sorting.pairwise_lt_mergeSort Prod.fst registry.hooks.distinct
  exact sorted.imp compareOfLessAndEq_eq_lt.mp

/-! ### What a run comes to -/

/-- Invokes a hook with a receiver of its own. -/
def invoke (act : α → Hook σ) (hook : α) (before : Shutdown × σ) :
    (Shutdown × σ) × Except HookError Unit :=
  let (shutdown, receiver) := before.1.subscribe
  let (state, result) := act hook ⟨shutdown, receiver⟩ before.2
  ((shutdown, state), result)

/-- Hooks are invoked one after the other, each in the state that the one before it left, and all of
them succeed. -/
inductive Succeed (act : α → Hook σ) : List (String × α) → Shutdown × σ → Shutdown × σ → Prop
  | nil (state : Shutdown × σ) : Succeed act [] state state
  | cons {name : String} {hook : α} {rest : List (String × α)} {before between after : Shutdown × σ}
      (first : invoke act hook before = (between, .ok ()))
      (others : Succeed act rest between after) :
      Succeed act ((name, hook) :: rest) before after

/-- Which of several hooks a run invokes, what it leaves, and what it answers. -/
inductive Ends (act : α → Hook σ) (hooks : List (String × α)) (before : Shutdown × σ) :
    List (String × α) → Shutdown × σ → Except HookError (List String) → Prop
  /-- All of them are invoked and succeed: their names are answered. -/
  | all {after : Shutdown × σ} (succeed : Succeed act hooks before after) :
      Ends act hooks before hooks after (.ok (hooks.map Prod.fst))
  /-- One fails after all before it have succeeded: nothing after it is invoked, and its error is
  answered. -/
  | failed {earlier later : List (String × α)} {name : String} {hook : α}
      {between after : Shutdown × σ} {error : HookError}
      (split : hooks = earlier ++ (name, hook) :: later)
      (succeed : Succeed act earlier before between)
      (fails : invoke act hook between = (after, .error error)) :
      Ends act hooks before (earlier ++ [(name, hook)]) after (.error error)

variable {act : α → Hook σ} {hooks : List (String × α)} {before after : Shutdown × σ}

/-- A hook that succeeds, and then the others. -/
theorem Ends.cons {name : String} {hook : α} {between : Shutdown × σ} {invoked : List (String × α)}
    {result : Except HookError (List String)}
    (first : invoke act hook before = (between, .ok ()))
    (ends : Ends act hooks between invoked after result) :
    Ends act ((name, hook) :: hooks) before ((name, hook) :: invoked) after
      (result.map (name :: ·)) := by
  cases ends with
  | all succeed => exact .all (.cons first succeed)
  | @failed earlier later own failing _ _ error split succeed fails =>
    have whole : (name, hook) :: hooks = ((name, hook) :: earlier) ++ (own, failing) :: later :=
      congrArg _ split
    exact .failed whole (.cons first succeed) fails

/-- A run always comes to something. -/
theorem exists_ends (act : α → Hook σ) (hooks : List (String × α)) (before : Shutdown × σ) :
    ∃ invoked after result, Ends act hooks before invoked after result := by
  induction hooks generalizing before with
  | nil => exact ⟨[], before, _, .all (.nil before)⟩
  | cons entry rest ih =>
    obtain ⟨name, hook⟩ := entry
    rcases first : invoke act hook before with ⟨between, error | _⟩
    · exact ⟨_, _, _, .failed (List.nil_append _).symm (.nil before) first⟩
    · obtain ⟨invoked, after, result, ends⟩ := ih between
      exact ⟨_, _, _, .cons first ends⟩

/-! ### The loop -/

theorem runEach_cons (act : α → Hook σ) (name : String) (hook : α) (rest : List (String × α))
    (ran : List String) (before : Shutdown × σ) :
    runEach act ((name, hook) :: rest) ran before =
      match invoke act hook before with
      | (after, .error error) => (after, .error error)
      | (after, .ok ()) => runEach act rest (ran ++ [name]) after := by
  obtain ⟨shutdown, state⟩ := before
  rcases subscribed : shutdown.subscribe with ⟨heard, receiver⟩
  rcases acted : act hook ⟨heard, receiver⟩ state with ⟨after, error | _⟩
  · simp only [runEach, invoke, subscribed, acted]
  · simp only [runEach, invoke, subscribed, acted]

/-- The loop goes through hooks that succeed, and takes their names down. -/
theorem runEach_append (succeed : Succeed act hooks before after) (rest : List (String × α))
    (ran : List String) :
    runEach act (hooks ++ rest) ran before =
      runEach act rest (ran ++ hooks.map Prod.fst) after := by
  induction succeed generalizing ran with
  | nil state => rw [List.nil_append, List.map_nil, List.append_nil]
  | cons first others ih =>
    rw [List.cons_append, runEach_cons, first]
    show runEach act _ _ _ = _
    rw [ih, List.map_cons, List.append_assoc, List.singleton_append]

/-- **The loop answers what a run comes to.** -/
theorem runEach_of_ends {invoked : List (String × α)} {result : Except HookError (List String)}
    (ends : Ends act hooks before invoked after result) :
    runEach act hooks [] before = (after, result) := by
  cases ends with
  | all succeed =>
    have whole := runEach_append succeed [] []
    rw [List.append_nil, List.nil_append] at whole
    rw [whole, runEach]
  | failed split succeed fails =>
    rw [split, runEach_append succeed, runEach_cons, fails]

/-! ### Taking note -/

/-- A hook that takes note of itself, beside what it does. -/
def noted (act : α → Hook σ) : α → Hook (List α × σ) := fun hook context (notes, state) =>
  let (state, result) := act hook context state
  ((notes ++ [hook], state), result)

theorem invoke_noted (act : α → Hook σ) (hook : α) (before : Shutdown × σ) (notes : List α) :
    invoke (noted act) hook (before.1, notes, before.2) =
      (((invoke act hook before).1.1, notes ++ [hook], (invoke act hook before).1.2),
        (invoke act hook before).2) := rfl

theorem succeed_noted (succeed : Succeed act hooks before after) (notes : List α) :
    Succeed (noted act) hooks (before.1, notes, before.2)
      (after.1, notes ++ hooks.map Prod.snd, after.2) := by
  induction succeed generalizing notes with
  | nil state =>
    rw [List.map_nil, List.append_nil]
    exact .nil _
  | @cons name hook rest before between after first others ih =>
    rw [List.map_cons, List.append_cons]
    refine .cons ?_ (ih (notes ++ [hook]))
    rw [invoke_noted, first]

/-- Hooks that take note of themselves do as they would, and note which of them were invoked. -/
theorem ends_noted {invoked : List (String × α)} {result : Except HookError (List String)}
    (ends : Ends act hooks before invoked after result) (notes : List α) :
    Ends (noted act) hooks (before.1, notes, before.2) invoked
      (after.1, notes ++ invoked.map Prod.snd, after.2) result := by
  cases ends with
  | all succeed => exact .all (succeed_noted succeed notes)
  | @failed earlier later name hook between _ error split succeed fails =>
    rw [List.map_append, ← List.append_assoc]
    refine .failed split (succeed_noted succeed notes) ?_
    rw [invoke_noted, fails]
    rfl

/-- **Which hooks a run invokes, and what it answers.** Whatever was called on an empty registry:

* a further hook is refused, and nothing changes, if its name was added before; else it is taken;
* the enabled hooks are, in strictly ascending order of their names, the first that was added under
  each name, but for the names that were ever disabled;
* a run invokes them in that order, each once, up to the first that fails; if none fails it answers
  all their names, and else that one's error. -/
theorem runAll_callAll (act : α → Hook σ) (calls : List (Call α)) (shutdown : Shutdown)
    (state : σ) :
    let registry := (empty : PostStartHooks α).callAll calls
    (∀ name hook, registry.call (.add name hook) =
      if (firstAdded? calls name).isSome then (registry, .error (.duplicate name))
      else ({ registry with hooks := registry.hooks.insert name hook }, .ok ())) ∧
    (registry.enabled.Pairwise fun a b => a.1 < b.1) ∧
    (∀ name hook, (name, hook) ∈ registry.enabled ↔
      firstAdded? calls name = some hook ∧ .disable name ∉ calls) ∧
    ∃ invoked after result,
      Ends act registry.enabled (shutdown, state) invoked after result ∧
      registry.runAll act shutdown state = (after, result) ∧
      registry.runAll (noted act) shutdown ([], state) =
        ((after.1, invoked.map Prod.snd, after.2), result) := by
  intro registry
  have known (name : String) : registry.hooks.get? name = firstAdded? calls name := by
    rw [get?_callAll]
    rfl
  refine ⟨fun name hook => ?_, ascending_enabled registry, fun name hook => ?_, ?_⟩
  · rw [← known]
    split
    · next taken => exact call_add_of_taken taken
    · next free => exact call_add_of_free (Bool.eq_false_iff.mpr free)
  · rw [mem_enabled, known, mem_disabled_callAll]
    simp [empty]
  · obtain ⟨invoked, after, result, ends⟩ := exists_ends act registry.enabled (shutdown, state)
    exact ⟨invoked, after, result, ends, runEach_of_ends ends, runEach_of_ends (ends_noted ends [])⟩

end PostStartHooks

end Aggregation
