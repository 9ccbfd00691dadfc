/-
**The convergence gate.**

A gate holds the identities still awaiting their first available observation. Identities are seeded
until the gate is closed; after that they can only leave. The gate's health probe fails while any
identity is pending and names the pending ones in ascending order.
-/

import Aggregation.Backend
import Aggregation.Metrics

namespace Aggregation

/-- The identities awaiting their first available observation, in ascending order. -/
structure Gate where
  name : String
  pending : List Identity
  isClosed : Bool

/-- Identities still await their first available observation. -/
structure PendingBackends where
  pending : List Identity
deriving DecidableEq

/-- The error in words, its identities in the order of the probe. -/
def PendingBackends.message (error : PendingBackends) : String :=
  "missing backend: [" ++ ", ".intercalate (error.pending.map Identity.display) ++ "]"

namespace Gate

/-- The name of the gate that a server waits on, and of its health check. -/
def completion : String := "autoregister-completion"

/-- A gate that waits for nothing yet. -/
def new (name : String) : Gate := ⟨name, [], false⟩

/-- Adds an identity to an ascending list unless it is there already. -/
def insertPending (identity : Identity) : List Identity → List Identity
  | [] => [identity]
  | first :: rest =>
    match compare identity first with
    | .lt => identity :: first :: rest
    | .eq => first :: rest
    | .gt => first :: insertPending identity rest

/-- The number of identities pending. -/
def count (gate : Gate) : Nat := gate.pending.length

/-- The reading of the gate's gauge. -/
def reading (gate : Gate) : Observation := .pendingBackends gate.name gate.count

/-- Adds identities and answers how many were new; a closed gate takes none and reports nothing. -/
def seed (gate : Gate) (identities : List Identity) : Gate × Nat × List Observation :=
  if gate.isClosed then (gate, 0, [])
  else
    let pending := identities.foldl (fun pending identity => insertPending identity pending)
      gate.pending
    let seeded := { gate with pending := pending }
    (seeded, seeded.count - gate.count, [seeded.reading])

/-- Closes the seeding window. -/
def close (gate : Gate) : Gate := { gate with isClosed := true }

/-- Applies a status event and answers whether it converged an identity. -/
def onEvent (gate : Gate) (event : StatusEvent) : Gate × Bool × List Observation :=
  if event.available && gate.pending.contains event.identity then
    let converged := { gate with pending := gate.pending.erase event.identity }
    (converged, true, [converged.reading])
  else (gate, false, [])

/-- Snapshot check: succeeds once nothing is pending, and otherwise names what is. -/
def probe (gate : Gate) : Except PendingBackends Unit :=
  if gate.pending.isEmpty then .ok () else .error ⟨gate.pending⟩

/-- Why the gate's probe fails, if it does. -/
def failure? (gate : Gate) : Option String :=
  match gate.probe with
  | .ok () => none
  | .error error => some error.message

end Gate

end Aggregation
