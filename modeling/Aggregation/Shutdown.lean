/-
**Shutdown coordination.**

Triggering shutdown raises a flag and then sends a signal to every subscribed loop. The channel
keeps one signal, so a second trigger replaces an unread first one and the receiver sees a loss;
either of the two ends a loop.

`Wait` is one call that waits for the trigger, in its atomic steps: it subscribes, looks at the
flag, and then receives. Subscribing first is what keeps a trigger between the two from being lost.
-/

import Aggregation.Feed

namespace Aggregation

/-- The flag and the channel of a shutdown. -/
structure Shutdown where
  triggered : Bool
  signals : Feed Unit

namespace Shutdown

/-- Nothing triggered, nobody subscribed. -/
def new : Shutdown := ⟨false, Feed.empty 1⟩

/-- Adds a receiver and answers its number. -/
def subscribe (shutdown : Shutdown) : Shutdown × Nat :=
  let (signals, receiver) := shutdown.signals.subscribe
  (⟨shutdown.triggered, signals⟩, receiver)

/-- Removes a receiver. -/
def unsubscribe (shutdown : Shutdown) (receiver : Nat) : Shutdown :=
  ⟨shutdown.triggered, shutdown.signals.unsubscribe receiver⟩

/-- The first half of a trigger: the flag is raised. -/
def raise (shutdown : Shutdown) : Shutdown := ⟨true, shutdown.signals⟩

/-- The second half of a trigger: a signal is sent. -/
def signal (shutdown : Shutdown) : Shutdown := ⟨shutdown.triggered, shutdown.signals.send ()⟩

/-- Raises the flag, then sends a signal. -/
def trigger (shutdown : Shutdown) : Shutdown := shutdown.raise.signal

/-- Reads once from a receiver. -/
def receive (shutdown : Shutdown) (receiver : Nat) : Received Unit × Shutdown :=
  let (received, signals) := shutdown.signals.receive receiver
  (received, ⟨shutdown.triggered, signals⟩)

/-- Whether a receiver holds a signal or a loss, either of which ends a loop. -/
def isSignalled (shutdown : Shutdown) (receiver : Nat) : Bool := shutdown.signals.hasNews receiver

/-- The number of receivers. -/
def receivers (shutdown : Shutdown) : Nat := shutdown.signals.receivers

/-! ### Waiting -/

/-- How far a waiting call has come. -/
inductive Wait where
  | starting
  | subscribed (receiver : Nat)
  | waiting (receiver : Nat)
  | returned
deriving DecidableEq

namespace Wait

/-- One atomic step of a waiting call; a call that has nothing to receive stays where it is. -/
def step (shutdown : Shutdown) : Wait → Shutdown × Wait
  | starting =>
    let (shutdown, receiver) := shutdown.subscribe
    (shutdown, subscribed receiver)
  | subscribed receiver =>
    if shutdown.triggered then (shutdown.unsubscribe receiver, returned)
    else (shutdown, waiting receiver)
  | waiting receiver =>
    match shutdown.receive receiver with
    | (.nothing, _) => (shutdown, waiting receiver)
    | (_, shutdown) => (shutdown.unsubscribe receiver, returned)
  | returned => (shutdown, returned)

/-- Steps until the call returns or has nothing to receive. -/
def run (shutdown : Shutdown) (call : Wait) : Shutdown × Wait :=
  let (shutdown, call) := call.step shutdown
  let (shutdown, call) := call.step shutdown
  call.step shutdown

/-- Gives up a waiting call, removing its receiver. -/
def abandon (shutdown : Shutdown) : Wait → Shutdown
  | subscribed receiver => shutdown.unsubscribe receiver
  | waiting receiver => shutdown.unsubscribe receiver
  | _ => shutdown

end Wait

end Shutdown

end Aggregation
