/-
**Post-start hooks.**

Hooks are kept under their names and run once, in the order of the names, after the server has
started. Disabled names are skipped, whether disabled before or after they were added, and the
first failure ends the run. Each hook that runs is given a shutdown receiver of its own.
-/

import Aggregation.Shutdown
import Aggregation.Table
import Aggregation.Text.Quoted

namespace Aggregation

/-- Why a hook is not added, or did not succeed. -/
inductive HookError where
  | duplicate (name : String)
  | failed (name : String) (reason : String)
deriving DecidableEq

namespace HookError

/-- The error in words. -/
def message : HookError → String
  | duplicate name => "post-start hook " ++ Text.quoted name ++ " is already registered"
  | failed name reason => "post-start hook " ++ Text.quoted name ++ " failed: " ++ reason

end HookError

/-- What a hook is given: the shutdown it runs under and a receiver of its own. -/
structure HookContext where
  shutdown : Shutdown
  receiver : Nat

/-- What a hook does to a state of type `σ`. -/
abbrev Hook (σ : Type) := HookContext → σ → σ × Except HookError Unit

/-- Named hooks of type `α`, and the names that are not to run. -/
structure PostStartHooks (α : Type) where
  hooks : Table String α
  disabled : List String

namespace PostStartHooks

variable {α σ : Type}

/-- Names in ascending order. -/
def sortNames (names : List String) : List String := names.mergeSort fun a b => (compare a b).isLE

/-- No hooks. -/
def empty : PostStartHooks α := ⟨Table.empty, []⟩

/-- Adds a hook under a name that is not taken. -/
def add (registry : PostStartHooks α) (name : String) (hook : α) :
    Except HookError (PostStartHooks α) :=
  if registry.hooks.contains name then .error (.duplicate name)
  else .ok { registry with hooks := registry.hooks.insert name hook }

/-- Keeps the hook of a name from running. -/
def disable (registry : PostStartHooks α) (name : String) : PostStartHooks α :=
  if name ∈ registry.disabled then registry
  else { registry with disabled := registry.disabled ++ [name] }

/-- The names of the hooks, ascending. -/
def names (registry : PostStartHooks α) : List String := sortNames registry.hooks.keys

/-- The disabled names, ascending. -/
def disabledNames (registry : PostStartHooks α) : List String := sortNames registry.disabled

/-- Whether there is no hook. -/
def isEmpty (registry : PostStartHooks α) : Bool := registry.hooks.isEmpty

/-- The enabled hooks with their names, in the order in which they run. -/
def enabled (registry : PostStartHooks α) : List (String × α) :=
  (registry.hooks.entries.mergeSort fun a b => (compare a.1 b.1).isLE).filter
    fun entry => !registry.disabled.contains entry.1

/-- The registry in words: its hooks and its disabled names. -/
def describe (registry : PostStartHooks α) : String :=
  "PostStartHooks \x7b hooks: [" ++ ", ".intercalate (registry.names.map Text.quoted) ++
    "], disabled: \x7b" ++ ", ".intercalate (registry.disabledNames.map Text.quoted) ++ "\x7d \x7d"

/-- Runs hooks one after the other up to the first failure, collecting the names that ran. -/
def runEach (act : α → Hook σ) : List (String × α) → List String → Shutdown × σ →
    (Shutdown × σ) × Except HookError (List String)
  | [], ran, state => (state, .ok ran)
  | (name, hook) :: rest, ran, (shutdown, state) =>
    let (shutdown, receiver) := shutdown.subscribe
    match act hook ⟨shutdown, receiver⟩ state with
    | (state, .error error) => ((shutdown, state), .error error)
    | (state, .ok ()) => runEach act rest (ran ++ [name]) (shutdown, state)

/-- Runs the enabled hooks and answers their names, or the first failure. -/
def runAll (act : α → Hook σ) (registry : PostStartHooks α) (shutdown : Shutdown) (state : σ) :
    (Shutdown × σ) × Except HookError (List String) :=
  runEach act registry.enabled [] (shutdown, state)

end PostStartHooks

end Aggregation
