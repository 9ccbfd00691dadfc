/-
**Forwarding requests to backends.**

A request for an identity goes to its registered backend if that is available: to the delegate if
the backend is local, otherwise to the address of its service. The request's path and query are
appended to the address. Method, body and end-to-end headers are passed on, except for the host, and
so are the status, the body and the end-to-end headers of the answer.

Every request that is answered counts under its method, the status and the backend; all identities
without a registration share one label, because clients choose them.
-/

import Aggregation.Availability

namespace Aggregation

/-- Why a registered backend cannot be used. -/
inductive Obstacle where
  | notAvailable (identity : Identity) (message : Option String)
  | noDelegate (identity : Identity)
  | noAddress (error : NameError)
  | invalidAddress (base : Url) (error : UrlError)

/-- Why a request was not forwarded. -/
inductive ForwardError where
  | notRegistered (identity : Identity)
  | unavailable (obstacle : Obstacle)
  | failed (error : Http.ExchangeError)

namespace Obstacle

/-- The obstacle in words. -/
def message : Obstacle → String
  | notAvailable identity message =>
    "backend " ++ identity.display ++ " is not available: " ++
      message.getD "not yet observed available"
  | noDelegate identity =>
    "backend " ++ identity.display ++
      " is served locally but no delegate address is configured"
  | noAddress error => error.message
  | invalidAddress base error => Prober.invalidAddress base error

end Obstacle

namespace ForwardError

/-- The status of the answer. -/
def status : ForwardError → Nat
  | notRegistered _ => 404
  | unavailable _ => 503
  | failed _ => 502

/-- The text of the answer. What went wrong with the exchange is not told to the client. -/
def message : ForwardError → String
  | notRegistered identity => "no backend registered for " ++ identity.display
  | unavailable obstacle => obstacle.message
  | failed _ => "upstream request failed"

end ForwardError

/-- What a forwarder needs: addresses, the delegate's address, and the network. -/
structure Forwarder where
  names : NameTable
  delegate : Option Url
  network : Http.Network

/-- What became of a request: the answer, unless there is none yet, the URLs that were contacted,
and what was observed. -/
structure Forwarded where
  answer : Option Http.Response
  contacted : List Url
  observed : List Observation

namespace Forwarder

/-- The label of all identities without a registration. -/
def unregisteredLabel : String := "unregistered"

/-- The base URL of a registered backend. -/
def base (forwarder : Forwarder) (descriptor : Descriptor) : Except Obstacle Url :=
  match descriptor.service with
  | none =>
    match forwarder.delegate with
    | some url => .ok url
    | none => .error (.noDelegate descriptor.identity)
  | some service =>
    match forwarder.names.resolve service with
    | .ok url => .ok url
    | .error error => .error (.noAddress error)

/-- The URL that a request for an identity goes to. -/
def destination (forwarder : Forwarder) (store : Store) (identity : Identity)
    (target : Http.Target) : Except ForwardError Url :=
  match store.get? identity with
  | none => .error (.notRegistered identity)
  | some registration =>
    if registration.available then
      match forwarder.base registration.descriptor with
      | .error obstacle => .error (.unavailable obstacle)
      | .ok base =>
        match base.below target.pathAndQuery with
        | .ok url => .ok url
        | .error error => .error (.unavailable (.invalidAddress base error))
    else .error (.unavailable (.notAvailable identity registration.message))

/-- The headers of a request that the backend sees. -/
def outgoingHeaders (headers : Http.Headers) : Http.Headers := headers.endToEnd.remove "host"

/-- The answer of a backend as the client sees it. -/
def relayed (response : Http.Response) : Http.Response :=
  { response with headers := response.headers.endToEnd }

/-- The label under which a request counts. -/
def label (identity : Identity) : Except ForwardError Http.Response → String
  | .error (.notRegistered _) => unregisteredLabel
  | _ => identity.display

/-- The answer to a request that was or was not forwarded, and how it counts. -/
def conclude (identity : Identity) (method : String) (contacted : List Url)
    (result : Except ForwardError Http.Response) : Forwarded :=
  let response := match result with
    | .ok response => relayed response
    | .error error => Http.Response.text error.status error.message
  ⟨some response, contacted, [.proxied method response.status (label identity result)]⟩

/-- Forwards a request for an identity. As long as the backend says nothing there is no answer. -/
def forward (forwarder : Forwarder) (store : Store) (identity : Identity)
    (request : Http.Request) : Forwarded :=
  match forwarder.destination store identity request.target with
  | .error error => conclude identity request.method [] (.error error)
  | .ok url =>
    let exchange := Http.send forwarder.network request.method url
      (outgoingHeaders request.headers) (some request.body)
    match exchange.result with
    | .ok response => conclude identity request.method exchange.contacted (.ok response)
    | .error .timeout => ⟨none, exchange.contacted, []⟩
    | .error error => conclude identity request.method exchange.contacted (.error (.failed error))

end Forwarder

end Aggregation
