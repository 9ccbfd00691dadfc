/-
**The background loops and their clock.**

Four loops work on the state that the server shares: one keeps the listed backends registered, one
brings status events to the gate, one probes the backends, and one watches the file of names. A loop
waits for its next tick, for events or for a change, and ends when its shutdown receiver holds a
signal. Time passes in whole seconds; after each second the loops run until all of them wait.
-/

import Aggregation.Availability
import Aggregation.Listener
import Aggregation.Settings.Basic
import Aggregation.Shutdown
import Aggregation.Sync

namespace Aggregation

/-- The state that the loops share. -/
structure Aggregator where
  store : Store
  gate : Gate
  list : SyncList
  names : NameTable
  shutdown : Shutdown
  metrics : Metrics
  /-- The seconds that have passed. -/
  clock : Nat

/-- What lies outside: how submissions reach the store, the network, and the files. -/
structure Environment where
  submission : Submission
  network : Http.Network
  files : Directory

/-- A tick that repeats. -/
structure Ticker where
  every : Nat
  due : Nat

namespace Ticker

/-- Whether the tick is due. -/
def isDue (ticker : Ticker) (clock : Nat) : Bool := ticker.due ≤ clock

/-- The tick after one at the present time. -/
def next (ticker : Ticker) (clock : Nat) : Ticker := { ticker with due := clock + ticker.every }

end Ticker

/-- The table in which a loop looks names up. -/
inductive NameSource where
  | shared
  | fixed (table : NameTable)

/-- A loop with its place in it. -/
inductive Loop where
  | sync (tick : Ticker) (reminder : Option Ticker)
  | listener (listener : Listener)
  | availability (tick : Ticker) (timeoutSecs : Nat) (names : NameSource)
  /-- Watches a file of names that extends the configured ones, and holds what it saw last. -/
  | watch (path : String) (configured : List Settings.Mapping) (seen : File)
  /-- A loop that is about to begin; its first tick comes after all loops have begun. -/
  | beginning (loop : Loop)
  /-- A loop that has nothing to do. -/
  | ended

/-- A loop that was started, with its shutdown receiver. -/
structure Task where
  loop : Loop
  receiver : Nat
  finished : Bool

namespace Aggregator

/-- The state at the start. -/
def new (store : Store) (gate : Gate) : Aggregator :=
  ⟨store, gate, SyncList.empty, Table.empty, Shutdown.new, Table.empty, 0⟩

/-- Takes observations into account. -/
def observe (aggregator : Aggregator) (observations : List Observation) : Aggregator :=
  { aggregator with metrics := aggregator.metrics.observeAll observations }

/-- Submits the listed backends for the first time. -/
def startSync (environment : Environment) (aggregator : Aggregator) : Aggregator × SyncReport :=
  let started :=
    environment.submission.startAll aggregator.store aggregator.gate aggregator.list.entries
  (observe { aggregator with store := started.store, gate := started.gate } started.observed,
    started.report)

/-- Submits the listed backends again. -/
def resync (environment : Environment) (aggregator : Aggregator) : Aggregator :=
  let (store, observed) := environment.submission.resync aggregator.store aggregator.list.entries
  observe { aggregator with store := store } observed

/-- Reports the identities left out again. -/
def remind (aggregator : Aggregator) : Aggregator :=
  { aggregator with list := aggregator.list.remind }

/-- Probes all backends. -/
def checkAll (environment : Environment) (timeoutSecs : Nat) (names : NameSource)
    (aggregator : Aggregator) : Aggregator :=
  let table := match names with
    | .shared => aggregator.names
    | .fixed table => table
  let prober : Prober := ⟨table, environment.network, timeoutSecs⟩
  let (store, observed) := prober.checkAll aggregator.store
  observe { aggregator with store := store } observed

/-- Reads the file of names again. -/
def reload (aggregator : Aggregator) (configured : List Settings.Mapping) (file : File) :
    Aggregator :=
  { aggregator with names := (NameTable.reload aggregator.names configured file).1 }

/-- Lets the listener work until it waits. -/
def listen (aggregator : Aggregator) (listener : Listener) : Aggregator × Listener :=
  let (around, listener) := listener.run ⟨aggregator.store, aggregator.gate, []⟩
  (observe { aggregator with store := around.store, gate := around.gate } around.observed, listener)

end Aggregator

namespace Loop

/-- The loop that keeps backends registered. It first ticks one interval after its start, and
reports the identities left out only if asked to. -/
def startSync (clock every : Nat) (policy : Settings.UnknownPolicy) (remindEvery : Nat) : Loop :=
  .sync ⟨every, clock + every⟩
    (if policy = .remind then some ⟨remindEvery, clock + remindEvery⟩ else none)

/-- The loop that probes backends, unless that is turned off. It first ticks at its start. -/
def startAvailability (clock : Nat) (settings : Settings.Availability) (names : NameSource) :
    Loop :=
  if settings.enabled then
    .beginning
      (.availability ⟨settings.intervalSecs.toNat, clock⟩ settings.timeoutSecs.toNat names)
  else .ended

/-- Whether the loop can run at all: a tick has to take some time. -/
def canRun : Loop → Bool
  | sync tick reminder => tick.every ≠ 0 && reminder.all fun reminder => reminder.every ≠ 0
  | listener _ => true
  | availability tick _ _ => tick.every ≠ 0
  | watch _ _ _ => true
  | beginning loop => loop.canRun
  | ended => false

/-- Works until the loop waits. -/
def turn (environment : Environment) (aggregator : Aggregator) : Loop → Aggregator × Loop
  | sync tick reminder =>
    let clock := aggregator.clock
    let (aggregator, tick) :=
      if tick.isDue clock then (aggregator.resync environment, tick.next clock)
      else (aggregator, tick)
    match reminder with
    | none => (aggregator, sync tick none)
    | some reminder =>
      if reminder.isDue clock then (aggregator.remind, sync tick (some (reminder.next clock)))
      else (aggregator, sync tick (some reminder))
  | listener state =>
    let (aggregator, state) := aggregator.listen state
    (aggregator, listener state)
  | availability tick timeoutSecs names =>
    if tick.isDue aggregator.clock then
      (aggregator.checkAll environment timeoutSecs names,
        availability (tick.next aggregator.clock) timeoutSecs names)
    else (aggregator, availability tick timeoutSecs names)
  | watch path configured seen =>
    let file := environment.files.file path
    if file = seen then (aggregator, watch path configured seen)
    else (aggregator.reload configured file, watch path configured file)
  | beginning loop => (aggregator, loop)
  | ended => (aggregator, ended)

end Loop

namespace Task

/-- Ends a task, giving its receiver back. -/
def finish (aggregator : Aggregator) (task : Task) : Aggregator × Task :=
  ({ aggregator with shutdown := aggregator.shutdown.unsubscribe task.receiver },
    { task with finished := true })

/-- Works until the task waits or has seen its signal. -/
def turn (environment : Environment) (aggregator : Aggregator) (task : Task) : Aggregator × Task :=
  if task.finished then (aggregator, task)
  else if !task.loop.canRun then task.finish aggregator
  else
    let (aggregator, loop) := task.loop.turn environment aggregator
    let task := { task with loop := loop }
    if aggregator.shutdown.isSignalled task.receiver then task.finish aggregator
    else (aggregator, task)

/-- Starts a loop. -/
def start (aggregator : Aggregator) (loop : Loop) : Aggregator × Task :=
  let (shutdown, receiver) := aggregator.shutdown.subscribe
  ({ aggregator with shutdown := shutdown }, ⟨loop, receiver, false⟩)

/-- Gives each task its turn. -/
def round (environment : Environment) (aggregator : Aggregator) :
    List Task → Aggregator × List Task
  | [] => (aggregator, [])
  | task :: rest =>
    let (aggregator, task) := task.turn environment aggregator
    let (aggregator, rest) := round environment aggregator rest
    (aggregator, task :: rest)

/-- Lets the tasks run until all of them wait. In a first round the loops begin; by the end of a
second one every tick that is due has been taken; a third one brings the events of these to the
listeners, which send none themselves. -/
def settle (environment : Environment) (aggregator : Aggregator) (tasks : List Task) :
    Aggregator × List Task :=
  let (aggregator, tasks) := round environment aggregator tasks
  let (aggregator, tasks) := round environment aggregator tasks
  round environment aggregator tasks

/-- Lets seconds pass, one after the other. -/
def advance (environment : Environment) : Nat → Aggregator → List Task → Aggregator × List Task
  | 0, aggregator, tasks => (aggregator, tasks)
  | seconds + 1, aggregator, tasks =>
    let aggregator := { aggregator with clock := aggregator.clock + 1 }
    let (aggregator, tasks) := settle environment aggregator tasks
    advance environment seconds aggregator tasks

end Task

end Aggregation
