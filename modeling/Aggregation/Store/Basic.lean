/-
**The registration store.**

A `Store` keeps the registrations by identity, their persisted documents by storage key, and the
feed of status events. Every creation and every status write persists the registration and sends
one event; a removal deletes record and document and sends none.

* `upsert` creates a missing registration, accepts an identical one and refuses one with another
  priority or another service;
* `setAvailable` writes the condition of an existing registration;
* `remove` takes a registration out.
-/

import Aggregation.Feed
import Aggregation.Store.Options

namespace Aggregation

/-- In what a submission differs from the registration that exists. -/
inductive Difference where
  | priority (registered submitted : Priority)
  | service
deriving DecidableEq

/-- Why the registry could not be reached. -/
inductive Outage where
  | noEncodeVersion (group : String)
  | offline
deriving DecidableEq

/-- Why the registry refuses an operation. -/
inductive RegistrationError where
  | conflict (identity : Identity) (difference : Difference)
  | notFound (identity : Identity)
  | unavailable (outage : Outage)
deriving DecidableEq

namespace RegistrationError

/-- The error in words. -/
def message : RegistrationError → String
  | conflict identity (.priority registered submitted) =>
    "registration conflict for " ++ identity.display ++ ": registered with priority " ++
      registered.display ++ ", submitted " ++ submitted.display
  | conflict identity .service =>
    "registration conflict for " ++ identity.display ++ ": registered with a different service"
  | notFound identity => "no registration for " ++ identity.display
  | unavailable (.noEncodeVersion group) =>
    "registry unavailable: no encode version for " ++ group
  | unavailable .offline => "registry unavailable: storage offline"

end RegistrationError

/-- How a successful submission ended. -/
inductive Upserted where
  | created
  | unchanged
deriving DecidableEq

/-- The registrations, their persisted documents and the feed of status events. -/
structure Store where
  options : StorageOptions
  records : Table Identity Registration
  documents : Table String String
  events : Feed StatusEvent

namespace Store

/-- The number of unread events that a receiver keeps. -/
def feedCapacity : Nat := 256

/-- An empty store. -/
def new (options : StorageOptions) : Store :=
  ⟨options, Table.empty, Table.empty, Feed.empty feedCapacity⟩

/-- The registration of an identity. -/
def get? (store : Store) (identity : Identity) : Option Registration := store.records.get? identity

/-- The registrations in the order of their identities. -/
def list (store : Store) : List Registration :=
  store.records.values.mergeSort fun a b => a.descriptor.identity.le b.descriptor.identity

/-- The persisted document under a key. -/
def raw? (store : Store) (key : String) : Option String := store.documents.get? key

/-- Stores the document of a registration under its key. -/
def persist (store : Store) (registration : Registration) : Except RegistrationError Store :=
  match store.options.encode? registration with
  | none => .error (.unavailable (.noEncodeVersion StorageOptions.registrationGroup))
  | some document =>
    let key := store.options.key registration.descriptor.identity
    .ok { store with documents := store.documents.insert key document }

/-- Keeps a registration under its identity. -/
def record (store : Store) (registration : Registration) : Store :=
  { store with records := store.records.insert registration.descriptor.identity registration }

/-- Sends the event of a written condition. -/
def emit (store : Store) (identity : Identity) (available : Bool) : Store :=
  { store with events := store.events.send ⟨identity, available⟩ }

/-- Creates a registration, or accepts an identical one. A registration that cannot be persisted is
not created. -/
def upsert (store : Store) (descriptor : Descriptor) : Store × Except RegistrationError Upserted :=
  let identity := descriptor.identity
  match store.get? identity with
  | some existing =>
    if existing.descriptor.priority ≠ descriptor.priority then
      (store, .error (.conflict identity
        (.priority existing.descriptor.priority descriptor.priority)))
    else if existing.descriptor.service ≠ descriptor.service then
      (store, .error (.conflict identity .service))
    else (store, .ok .unchanged)
  | none =>
    let registration : Registration := ⟨descriptor, false, none⟩
    match store.persist registration with
    | .error error => (store, .error error)
    | .ok store => ((store.record registration).emit identity false, .ok .created)

/-- Writes the condition of an existing registration: first the record, then its document, and the
event last. -/
def setAvailable (store : Store) (identity : Identity) (available : Bool)
    (message : Option String) : Store × Except RegistrationError Unit :=
  match store.get? identity with
  | none => (store, .error (.notFound identity))
  | some existing =>
    let registration : Registration := ⟨existing.descriptor, available, message⟩
    let store := store.record registration
    match store.persist registration with
    | .error error => (store, .error error)
    | .ok store => (store.emit identity available, .ok ())

/-- Takes a registration out, with the document under its key. -/
def remove (store : Store) (identity : Identity) : Store × Option Registration :=
  match store.get? identity with
  | none => (store, none)
  | some existing =>
    ({ store with
        records := store.records.erase identity
        documents := store.documents.erase (store.options.key existing.descriptor.identity) },
      some existing)

/-- Adds a receiver of status events. -/
def subscribe (store : Store) : Store × Nat :=
  let (events, receiver) := store.events.subscribe
  ({ store with events := events }, receiver)

/-- Reads a receiver empty. -/
def drain (store : Store) (receiver : Nat) : Inbox StatusEvent × Store :=
  let (inbox, events) := store.events.drain receiver
  (inbox, { store with events := events })

end Store

/-- A way in which submissions reach a store. -/
abbrev Submission := Store → Descriptor → Store × Except RegistrationError Upserted

namespace Submission

/-- Submissions of the given identities fail before they reach the store. -/
def refusing (identities : List Identity) : Submission := fun store descriptor =>
  if descriptor.identity ∈ identities then (store, .error (.unavailable .offline))
  else store.upsert descriptor

end Submission

end Aggregation
