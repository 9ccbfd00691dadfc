/-
**A running server.**

A `Running` is what there is once a server runs: the state that its loops share, what lies outside,
and the loops. Whoever changes the state or what lies outside lets the loops settle after that. A
hook of the server acts on it; `startLoop` is the hook that starts a loop under the shutdown
receiver it was given.
-/

import Aggregation.Hooks
import Aggregation.Loops

namespace Aggregation

/-- A server that runs. -/
structure Running where
  aggregator : Aggregator
  environment : Environment
  tasks : List Task

/-- A hook that acts on the server once it runs. -/
abbrev StartHook := Hook Running

namespace Running

/-- Lets the loops run until all of them wait. -/
def settle (running : Running) : Running :=
  let (aggregator, tasks) := Task.settle running.environment running.aggregator running.tasks
  { running with aggregator := aggregator, tasks := tasks }

/-- Lets seconds pass. -/
def advance (seconds : Nat) (running : Running) : Running :=
  let (aggregator, tasks) :=
    Task.advance running.environment seconds running.aggregator running.tasks
  { running with aggregator := aggregator, tasks := tasks }

/-- Starts a loop and lets it run until it waits. -/
def start (running : Running) (loop : Loop) : Running :=
  let (aggregator, task) := Task.start running.aggregator loop
  settle { running with aggregator := aggregator, tasks := running.tasks ++ [task] }

/-- Triggers shutdown, which ends the loops. -/
def stop (running : Running) : Running :=
  let aggregator := running.aggregator
  settle { running with
    aggregator := { aggregator with shutdown := aggregator.shutdown.trigger } }

/-- Writes a file, or removes it, and lets the loops see it. -/
def write (running : Running) (path : String) (content : File) : Running :=
  settle { running with
    environment :=
      { running.environment with files := running.environment.files.write path content } }

end Running

/-! ### Hooks that start loops -/

/-- Starts the loop that a function gives for the server. -/
def StartHook.startLoop (loop : Running → Loop) : StartHook := fun context running =>
  ({ running with tasks := running.tasks ++ [⟨loop running, context.receiver, false⟩] }, .ok ())

/-- Does nothing. -/
def StartHook.idle : StartHook := fun _ running => (running, .ok ())

end Aggregation
