/-
**Keeping backends registered.**

A `SyncList` holds the backends to keep registered, the first one of each identity. Those derived
from the delegate's paths gate readiness; external ones do not. At the start every entry is
submitted once, and the gated ones that succeed are seeded into the gate; after that, every pass
submits the list again, which restores what was removed and changes nothing else.
-/

import Aggregation.Gate
import Aggregation.Store.Basic

namespace Aggregation

/-- A backend to keep registered. -/
structure SyncEntry where
  descriptor : Descriptor
  gated : Bool
deriving DecidableEq

/-- The backends to keep registered, and the identities left out for lack of a priority. -/
structure SyncList where
  entries : List SyncEntry
  unknown : List Identity
  /-- The number of times that the identities left out were reported again. -/
  reminders : Nat

/-- What one pass over the list did. -/
structure SyncReport where
  registered : List Identity
  pending : List Identity
  failed : List (Identity × RegistrationError)

namespace SyncList

/-- Nothing to keep registered. -/
def empty : SyncList := ⟨[], [], 0⟩

/-- Adds an entry unless there is one of its identity. -/
def push (list : SyncList) (entry : SyncEntry) : SyncList :=
  if list.entries.any fun other => other.descriptor.identity == entry.descriptor.identity then list
  else { list with entries := list.entries ++ [entry] }

/-- Adds a backend that gates readiness. -/
def add (list : SyncList) (descriptor : Descriptor) : SyncList := list.push ⟨descriptor, true⟩

/-- Adds a backend that does not gate readiness. -/
def addExternal (list : SyncList) (descriptor : Descriptor) : SyncList :=
  list.push ⟨descriptor, false⟩

/-- The number of entries. -/
def size (list : SyncList) : Nat := list.entries.length

/-- Reports the identities left out once more. -/
def remind (list : SyncList) : SyncList := { list with reminders := list.reminders + 1 }

end SyncList

namespace Submission

/-- How a submission counts. -/
def outcome : Except RegistrationError Upserted → SubmissionOutcome
  | .ok .created => .created
  | .ok .unchanged => .unchanged
  | .error _ => .failed

/-- Submits a backend and counts how it ended. -/
def submit (submission : Submission) (store : Store) (descriptor : Descriptor) :
    Store × Except RegistrationError Upserted × List Observation :=
  let (store, result) := submission store descriptor
  (store, result, [.submission (outcome result)])

/-- A pass at the start: the store, the gate, what the pass did, and what was observed. -/
structure Started where
  store : Store
  gate : Gate
  report : SyncReport
  observed : List Observation

/-- Submits one entry; a gated one that succeeds is seeded into the gate. -/
def start (submission : Submission) (state : Started) (entry : SyncEntry) : Started :=
  let identity := entry.descriptor.identity
  let (store, result, observed) := submission.submit state.store entry.descriptor
  match result with
  | .error error =>
    { state with
      store := store
      report := { state.report with failed := state.report.failed ++ [(identity, error)] }
      observed := state.observed ++ observed }
  | .ok _ =>
    let report := { state.report with registered := state.report.registered ++ [identity] }
    if entry.gated then
      let (gate, added, seeded) := state.gate.seed [identity]
      { store := store
        gate := gate
        report :=
          if added = 1 then { report with pending := report.pending ++ [identity] } else report
        observed := state.observed ++ observed ++ seeded }
    else { state with store := store, report := report, observed := state.observed ++ observed }

/-- Submits every entry at the start. -/
def startAll (submission : Submission) (store : Store) (gate : Gate) (entries : List SyncEntry) :
    Started :=
  entries.foldl submission.start ⟨store, gate, ⟨[], [], []⟩, []⟩

/-- Submits every entry again. -/
def resync (submission : Submission) (store : Store) : List SyncEntry → Store × List Observation
  | [] => (store, [])
  | entry :: rest =>
    let (store, _, first) := submission.submit store entry.descriptor
    let (store, others) := submission.resync store rest
    (store, first ++ others)

end Submission

end Aggregation
