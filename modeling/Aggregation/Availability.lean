/-
**Availability of backends.**

A pass lists the registrations, observes the condition of each, and then records what it observed.
A local backend is available. An external one is probed: its service has to have an address, and a
request to its path below that address has to succeed in time. A condition is only written if it
differs from the one listed; what was removed in the meantime stays removed.
-/

import Aggregation.Http.Exchange
import Aggregation.Metrics
import Aggregation.Names
import Aggregation.Store.Basic
import Aggregation.Url.Below

namespace Aggregation

/-- What was observed of a backend. -/
structure Condition where
  available : Bool
  message : Option String
deriving DecidableEq

namespace Condition

/-- The backend can be used. -/
def ready : Condition := ⟨true, none⟩

/-- The backend cannot be used for a reason. -/
def unready (reason : String) : Condition := ⟨false, some reason⟩

end Condition

/-- What a prober needs: addresses, the network, and the seconds that a probe may take. -/
structure Prober where
  names : NameTable
  network : Http.Network
  timeoutSecs : Nat

namespace Prober

/-- A number of whole seconds in words. -/
def secondsText (seconds : Nat) : String :=
  if seconds = 0 then "0ns" else toString seconds ++ "s"

/-- The text for a base URL that request paths cannot be appended to. -/
def invalidAddress (base : Url) (error : UrlError) : String :=
  "invalid backend address " ++ base.display ++ ": " ++ error.message

/-- The headers of a probe. -/
def headers : Http.Headers := [("user-agent", .ofText "api-aggregator-availability")]

/-- The condition that an answer to a probe shows. -/
def ofAnswer (url : Url) (response : Http.Response) : Condition :=
  if Http.isSuccess response.status then .ready
  else .unready ("failing response from " ++ url.display ++ ": " ++ Http.statusText response.status)

/-- The text for a probe that was not answered in time. -/
def lateText (prober : Prober) (url : Url) : String :=
  "no response from " ++ url.display ++ " within " ++ secondsText prober.timeoutSecs

/-- Probes a URL. A probe without any time is over before it reaches the network. -/
def probeUrl (prober : Prober) (url : Url) : Condition :=
  match (Http.send prober.network "GET" url headers none).result with
  | .error (.notSendable sent) =>
    .unready ("failing or missing response from " ++ url.display ++ ": " ++
      (Http.ExchangeError.notSendable sent).message)
  | .ok response =>
    if prober.timeoutSecs = 0 then .unready (prober.lateText url) else ofAnswer url response
  | .error .timeout => .unready (prober.lateText url)
  | .error error =>
    if prober.timeoutSecs = 0 then .unready (prober.lateText url)
    else .unready ("failing or missing response from " ++ url.display ++ ": " ++ error.message)

/-- Observes one backend. -/
def check (prober : Prober) (descriptor : Descriptor) : Condition :=
  match descriptor.service with
  | none => .ready
  | some service =>
    match prober.names.resolve service with
    | .error error => .unready error.message
    | .ok base =>
      match base.below descriptor.identity.path with
      | .error error => .unready (invalidAddress base error)
      | .ok url => prober.probeUrl url

/-- Observes every registration of a list. -/
def observe (prober : Prober) (registrations : List Registration) :
    List (Registration × Condition) :=
  registrations.map fun registration => (registration, prober.check registration.descriptor)

/-- Records what was observed of a registration as it was listed. -/
def record (store : Store) (registration : Registration) (condition : Condition) :
    Store × List Observation :=
  let identity := registration.descriptor.identity
  let observed := [Observation.backendAvailable identity.display condition.available]
  if registration.available = condition.available ∧ registration.message = condition.message then
    (store, observed)
  else
    ((store.setAvailable identity condition.available condition.message).1, observed)

/-- Records conditions one after the other. -/
def recordAll (store : Store) : List (Registration × Condition) → Store × List Observation
  | [] => (store, [])
  | (registration, condition) :: rest =>
    let (store, first) := record store registration condition
    let (store, others) := recordAll store rest
    (store, first ++ others)

/-- One pass over all registrations. -/
def checkAll (prober : Prober) (store : Store) : Store × List Observation :=
  recordAll store (prober.observe store.list)

end Prober

end Aggregation
