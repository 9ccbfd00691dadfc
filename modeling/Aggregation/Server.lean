/-
**The aggregation server.**

A server is built from an assembly and the paths that its delegate lists. The backends derived from
the paths and the configured external ones are submitted to the store; then the gate is closed, so
that it waits for exactly those derived backends that were accepted, and joins the health checks.
The loops are queued as hooks and begin when the server is started; only then are the certificate
and key read that it may need to serve.
-/

import Aggregation.Assembly
import Aggregation.Discovery
import Aggregation.Http.Router
import Aggregation.Serving

namespace Aggregation

/-- Why a server is not built, or does not serve. -/
inductive ServerError where
  | checks (error : HealthError)
  | hook (error : HookError)
  | serving (error : ServingError)

namespace ServerError

/-- The error in words. -/
def message : ServerError → String
  | checks error => "health check registration failed: " ++ error.message
  | hook error => error.message
  | serving error => "server error: " ++ error.message

end ServerError

/-! ### Hooks -/

namespace StartHook

/-- The name of the hook that starts to keep backends registered. -/
def syncName : String := "start-aggregator-registration-sync"

/-- The name of the hook that starts the status listener. -/
def listenerName : String := "start-aggregator-status-listener"

/-- The name of the hook that starts to probe backends. -/
def availabilityName : String := "start-aggregator-availability-controller"

/-- The name of the hook that starts to watch the file of names. -/
def watchName : String := "start-aggregator-name-mapping-watch"

/-- Starts to keep backends registered. -/
def sync (settings : Settings) : StartHook :=
  startLoop fun running => Loop.startSync running.aggregator.clock
    settings.registry.syncIntervalSecs.toNat settings.discovery.unknownIdentityPolicy
    settings.discovery.remindIntervalSecs.toNat

/-- Starts the status listener. -/
def listener : StartHook := startLoop fun _ => .listener .starting

/-- Starts to probe backends. -/
def availability (settings : Settings) : StartHook :=
  startLoop fun running =>
    Loop.startAvailability running.aggregator.clock settings.availability .shared

/-- Starts to watch a file of names, which has to be there. -/
def watch (path : String) (configured : List Settings.Mapping) : StartHook :=
  fun context running =>
    match running.environment.files.file path with
    | none => (running, .error (.failed watchName "No path was found."))
    | some content =>
      startLoop (fun _ => .watch path configured (some content)) context running

/-- The hooks of the aggregation layer, in the order in which they are added. -/
def all (settings : Settings) : List (String × StartHook) :=
  [(syncName, sync settings), (listenerName, listener),
    (availabilityName, availability settings)] ++
    settings.nameMappings.path.toList.map fun path =>
      (watchName, watch path settings.nameMappings.mappings)

/-- Adds hooks one after the other. -/
def addAll (hooks : PostStartHooks StartHook) (added : List (String × StartHook)) :
    Except HookError (PostStartHooks StartHook) :=
  added.foldlM (fun hooks entry => hooks.add entry.1 entry.2) hooks

end StartHook

/-! ### Servers -/

/-- A server that does not run yet. -/
structure Server where
  listener : Settings.Listener
  settings : Settings
  aggregator : Aggregator
  checks : HealthChecks Aggregator
  hooks : PostStartHooks StartHook
  transport : Transport

namespace Server

/-- The built-in priorities overlaid by those of some settings. -/
def priorities (settings : Settings) : PriorityTable :=
  PriorityTable.builtin.insertAll (settings.priorities.map fun entry =>
    (⟨entry.group, entry.version⟩, ⟨entry.groupPriority, entry.versionPriority⟩))

/-- A configured external backend. -/
def external (entry : Settings.BackendEntry) : Descriptor :=
  ⟨⟨entry.group, entry.version⟩, ⟨entry.groupPriority, entry.versionPriority⟩, some entry.service⟩

/-- The backends to keep registered: those derived from the delegate's paths, which gate readiness,
and the configured ones. -/
def syncList (settings : Settings) (paths : List String) : SyncList :=
  let (derived, list) := Derivation.ofPaths (priorities settings) SyncList.add SyncList.empty paths
  (settings.backends.map external).foldl SyncList.addExternal
    { list with unknown := derived.unknown }

/-- Closes the gate and takes its reading. -/
def closeGate (aggregator : Aggregator) : Aggregator :=
  let gate := aggregator.gate.close
  Aggregator.observe { aggregator with gate := gate } [gate.reading]

/-- The state with which a server starts: every backend submitted once, and the gate closed. -/
def prepare (assembly : Assembly) (paths : List String) (store : Store) (shutdown : Shutdown)
    (environment : Environment) : Aggregator :=
  let aggregator : Aggregator :=
    { Aggregator.new store (Gate.new Gate.completion) with
      list := syncList assembly.settings paths
      names := assembly.names
      shutdown := shutdown }
  closeGate (aggregator.startSync environment).1

/-- The checks of a server: its gate on every endpoint, and shutdown on `readyz` only. -/
def makeChecks : Except HealthError (HealthChecks Aggregator) := do
  let (checks, added) :=
    HealthChecks.new.addBoot [HealthCheck.gate Gate.completion Aggregator.gate]
  added
  let (checks, added) := checks.addReadiness [HealthCheck.shutdown Aggregator.shutdown]
  added
  .ok checks

/-- Builds a server for the paths that the delegate lists. -/
def build (assembly : Assembly) (paths : List String) (store : Store) (shutdown : Shutdown)
    (environment : Environment) : Except ServerError Server := do
  let aggregator := prepare assembly paths store shutdown environment
  let checks ← makeChecks.mapError .checks
  let hooks ←
    (StartHook.addAll assembly.options.hooks (StartHook.all assembly.settings)).mapError .hook
  .ok ⟨assembly.options.listener, assembly.settings, aggregator, checks, hooks, assembly.transport⟩

/-- Whether the server can serve: without a certificate it always can. -/
def serving (server : Server) (files : Directory) : Except ServingError Unit :=
  match server.listener.tls with
  | none => .ok ()
  | some tls => (tls.load files).map fun _ => ()

/-- Starts a server: its hooks run, and their loops until they wait. The second component says
whether the server serves; what the hooks started goes on in either case. -/
def start (server : Server) (environment : Environment) : Running × Except ServerError Unit :=
  let shutdown := server.aggregator.shutdown
  let ((shutdown, running), ran) :=
    server.hooks.runAll (fun hook => hook) shutdown ⟨server.aggregator, environment, []⟩
  let running :=
    Running.settle { running with aggregator := { running.aggregator with shutdown := shutdown } }
  match ran with
  | .error error => (running, .error (.hook error))
  | .ok _ => (running, (server.serving environment.files).mapError .serving)

/-- The router of a running server. -/
def router (server : Server) (running : Running) : Http.Router Aggregator where
  checks := server.checks.install
  forwarder :=
    ⟨running.aggregator.names, server.settings.delegate.address, running.environment.network⟩

/-- The answer of a running server to a request. -/
def handle (server : Server) (running : Running) (fresh : String) (request : Http.Request) :
    Http.Response × Running :=
  let aggregator := running.aggregator
  let (response, forwarded) :=
    (server.router running).handle aggregator aggregator.store fresh request
  (response, { running with aggregator := aggregator.observe forwarded.observed })

end Server

end Aggregation
