/-
**Routing requests.**

The server answers health checks, lists the registered backends, and forwards everything below
`/apis/group/version` to the backend of that identity. Routes are matched on the path as it was
written; a parameter that ends its route has to hold something, one before the end may be empty. The
parts that become names are percent-decoded after that and have to be text.

Each answer carries an identification of its request: the backend's own, else the one that the
request came with, else a new one.
-/

import Aggregation.Health
import Aggregation.Http.Forward
import Aggregation.Text.Form

namespace Aggregation.Http

/-- Where a path leads; parameters are as they were written. -/
inductive Route where
  | checks (endpoint : Endpoint)
  | oneCheck (endpoint : Endpoint) (name : List Char)
  | backends
  | backend (group version rest : List Char)
deriving DecidableEq

namespace Route

/-- The route of a path below `/apis/`. -/
def ofGroup? (text : List Char) : Option Route :=
  let group := text.takeWhile (· ≠ '/')
  match text.drop group.length with
  | [] => none
  | _ :: text =>
    let version := text.takeWhile (· ≠ '/')
    match text.drop version.length with
    | [] => if version.isEmpty then none else some (backend group version [])
    | _ :: rest => if rest.isEmpty then none else some (backend group version rest)

/-- The route of a path below the name of an endpoint. -/
def ofEndpoint? (endpoint : Endpoint) : List Char → Option Route
  | [] => some (checks endpoint)
  | '/' :: name =>
    if name.isEmpty ∨ '/' ∈ name then none else some (oneCheck endpoint name)
  | _ => none

/-- What follows a given start of a text. -/
def afterStart? (start : String) (text : List Char) : Option (List Char) :=
  if start.toList.isPrefixOf text then some (text.drop start.length) else none

/-- The route of a path. -/
def ofPath? (path : String) : Option Route :=
  let text := path.toList
  if path = "/aggregator/backends" then some backends
  else
    (afterStart? "/healthz" text >>= ofEndpoint? .healthz) <|>
    (afterStart? "/livez" text >>= ofEndpoint? .livez) <|>
    (afterStart? "/readyz" text >>= ofEndpoint? .readyz) <|>
    (afterStart? "/apis/" text >>= ofGroup?)

/-- Whether a route takes every method, and not only `GET` and `HEAD`. -/
def takesAnyMethod : Route → Bool
  | backend _ _ _ => true
  | _ => false

end Route

/-- A parameter of a path as text, or the answer that refuses it. -/
def decodeParameter (name : String) (written : List Char) : Except Response String :=
  match Text.Utf8.decode? (Text.Percent.decode written) with
  | some text => .ok (String.ofList text)
  | none => .error (.text 400 ("Invalid URL: Invalid UTF-8 in \x60" ++ name ++ "\x60"))

/-! ### Health checks -/

/-- What a health request asks for. -/
structure HealthQuery where
  verbose : Bool
  exclude : List String
deriving DecidableEq

namespace HealthQuery

/-- Takes a parameter into account: the last `verbose` counts, each `exclude` adds a name. -/
def take (query : HealthQuery) (parameter : String × String) : HealthQuery :=
  if parameter.1 = "verbose" then
    { query with verbose := parameter.2 ≠ "false" ∧ parameter.2 ≠ "0" }
  else if parameter.1 = "exclude" then { query with exclude := query.exclude ++ [parameter.2] }
  else query

/-- What a list of parameters asks for. -/
def ofParameters (parameters : List (String × String)) : HealthQuery :=
  parameters.foldl take ⟨false, []⟩

/-- What the query of a target asks for. -/
def ofTarget (target : Target) : HealthQuery :=
  ofParameters (target.query.elim [] Text.Form.pairs)

end HealthQuery

/-- The answer that shows a report. -/
def showReport (report : HealthReport) (verbose : Bool) : Response :=
  .text (if report.isHealthy then 200 else 500) (report.render verbose)

/-- The answer to a request for the checks of an endpoint. -/
def showChecks {σ : Type} (checks : HealthChecks σ) (conditions : σ) (endpoint : Endpoint)
    (query : HealthQuery) : Response :=
  showReport (checks.evaluate conditions endpoint query.exclude) query.verbose

/-- The answer to a request for one check of an endpoint. -/
def showOneCheck {σ : Type} (checks : HealthChecks σ) (conditions : σ) (endpoint : Endpoint)
    (name : String) (query : HealthQuery) : Response :=
  match checks.evaluateOne? conditions endpoint name with
  | some result => showReport ⟨endpoint, [result]⟩ query.verbose
  | none => .text 404 ("no " ++ endpoint.text ++ " check named " ++ Text.quoted name)

/-! ### The list of backends -/

/-- The registrations in discovery order. -/
def inDiscoveryOrder (registrations : List Registration) : List Registration :=
  registrations.mergeSort fun a b => a.descriptor.ranked.le b.descriptor.ranked

/-- A registration as it is listed. -/
def listed (options : StorageOptions) (registration : Registration) : Json :=
  let descriptor := registration.descriptor
  .object [
    ("name", .string descriptor.identity.backendName),
    ("group", .string descriptor.identity.group),
    ("version", .string descriptor.identity.version),
    ("group_priority", .int descriptor.priority.group.toInt),
    ("version_priority", .int descriptor.priority.version.toInt),
    ("service", Json.ofText? descriptor.service),
    ("available", .bool registration.available),
    ("message", Json.ofText? registration.message),
    ("storage_key", .string (options.key descriptor.identity)),
    ("api_version", Json.ofText? (options.registrationVersion?.map Identity.display))]

/-- The answer that lists the backends. -/
def showBackends (store : Store) : Response :=
  .json 200 (Json.array ((inDiscoveryOrder store.list).map (listed store.options))).compact

/-! ### Whole requests -/

/-- What a router needs: the health checks and the forwarder. -/
structure Router (σ : Type) where
  checks : HealthChecks σ
  forwarder : Forwarder

namespace Router

variable {σ : Type} (router : Router σ)

/-- An answer of the server itself. -/
def own (response : Response) : Forwarded := ⟨some response, [], []⟩

/-- Forwards a request to the backend of a group and version. -/
def toBackend (store : Store) (group version rest : List Char) (request : Request) : Forwarded :=
  match decodeParameter "group" group, decodeParameter "version" version,
    decodeParameter "rest" rest with
  | .error response, _, _ => own response
  | _, .error response, _ => own response
  | _, _, .error response => own response
  | .ok group, .ok version, .ok _ => router.forwarder.forward store ⟨group, version⟩ request

/-- Follows a route. -/
def follow (conditions : σ) (store : Store) (request : Request) : Route → Forwarded
  | .checks endpoint =>
    own (showChecks router.checks conditions endpoint (.ofTarget request.target))
  | .oneCheck endpoint name =>
    match decodeParameter "name" name with
    | .error response => own response
    | .ok name =>
      own (showOneCheck router.checks conditions endpoint name (.ofTarget request.target))
  | .backends => own (showBackends store)
  | .backend group version rest => router.toBackend store group version rest request

/-- The answer to a request without regard to its identification. -/
def dispatch (conditions : σ) (store : Store) (request : Request) : Forwarded :=
  match Route.ofPath? request.target.path with
  | none => own (.bare 404)
  | some route =>
    if route.takesAnyMethod ∨ request.method = "GET" ∨ request.method = "HEAD" then
      router.follow conditions store request route
    else own ⟨405, [("allow", .ofText "GET,HEAD")], []⟩

/-- The answer with an identification, unless it has one. -/
def identified (id : Bytes) (response : Response) : Response :=
  if response.headers.has Headers.requestIdName then response
  else { response with headers := response.headers.set Headers.requestIdName id }

/-- The answer to a request; `fresh` identifies it if it came without an identification. A backend
that says nothing makes the request time out, and the answer to `HEAD` has no body. -/
def handle (conditions : σ) (store : Store) (fresh : String) (request : Request) :
    Response × Forwarded :=
  let id := (request.headers.first? Headers.requestIdName).getD (.ofText fresh)
  let request :=
    if request.headers.has Headers.requestIdName then request
    else { request with headers := request.headers.set Headers.requestIdName id }
  let forwarded := router.dispatch conditions store request
  let response := identified id (forwarded.answer.getD (.bare 408))
  (if request.method = "HEAD" then response.withoutBody else response, forwarded)

end Router

end Aggregation.Http
