/-
**Health checks.**

A `HealthChecks` registry holds two lists of named checks: the boot checks are served on every
endpoint, the readiness checks on `readyz` only. Names are unique over both lists, and once the
endpoints are installed no check can be added. A check looks at the conditions of the moment (of
type `σ`) and passes or gives the reason of its failure.
-/

import Aggregation.Gate
import Aggregation.Shutdown
import Aggregation.Text.Quoted

namespace Aggregation

/-- A named check; `failure?` gives the reason if it fails. -/
structure HealthCheck (σ : Type) where
  name : String
  failure? : σ → Option String

namespace HealthCheck

variable {σ : Type}

/-- Always passes. -/
def ping : HealthCheck σ := ⟨"ping", fun _ => none⟩

/-- Fails once shutdown has been triggered. -/
def shutdown (view : σ → Shutdown) : HealthCheck σ where
  name := "shutdown"
  failure? conditions :=
    if (view conditions).triggered then some "process is shutting down" else none

/-- Fails while a gate of the given name waits for backends. -/
def gate (name : String) (view : σ → Gate) : HealthCheck σ :=
  ⟨name, fun conditions => (view conditions).failure?⟩

end HealthCheck

/-- The endpoints that serve checks. -/
inductive Endpoint where
  | healthz
  | livez
  | readyz
deriving DecidableEq

namespace Endpoint

/-- The endpoint's name. -/
def text : Endpoint → String
  | healthz => "healthz"
  | livez => "livez"
  | readyz => "readyz"

end Endpoint

/-- Why a check is not added. -/
inductive HealthError where
  | duplicate (name : String)
  | alreadyInstalled (name : String)
deriving DecidableEq

namespace HealthError

/-- The error in words. -/
def message : HealthError → String
  | duplicate name => "health check " ++ Text.quoted name ++ " is already registered"
  | alreadyInstalled name =>
    "unable to add health check " ++ Text.quoted name ++
      ": health endpoints are already installed"

end HealthError

/-- What one check gave. -/
structure CheckResult where
  name : String
  failure : Option String
deriving DecidableEq

/-- What the checks of an endpoint gave. -/
structure HealthReport where
  endpoint : Endpoint
  results : List CheckResult
deriving DecidableEq

namespace HealthReport

/-- Whether every check passed. -/
def isHealthy (report : HealthReport) : Bool :=
  report.results.all fun result => result.failure.isNone

/-- The names of the checks that failed. -/
def failed (report : HealthReport) : List String :=
  (report.results.filter fun result => result.failure.isSome).map CheckResult.name

/-- The line of one check; the reason of a failure is only shown on request. -/
def line (verbose : Bool) (result : CheckResult) : String :=
  match result.failure with
  | none => "[+]" ++ result.name ++ " ok\n"
  | some reason =>
    "[-]" ++ result.name ++ " failed: " ++ (if verbose then reason else "reason withheld") ++ "\n"

/-- The body that the endpoint serves. -/
def render (report : HealthReport) (verbose : Bool) : String :=
  if report.isHealthy && !verbose then "ok"
  else
    "".intercalate (report.results.map (line verbose)) ++ report.endpoint.text ++ " check " ++
      (if report.isHealthy then "passed" else "failed") ++ "\n"

end HealthReport

/-- The registered checks. -/
structure HealthChecks (σ : Type) where
  boot : List (HealthCheck σ)
  readiness : List (HealthCheck σ)
  installed : Bool

namespace HealthChecks

variable {σ : Type}

/-- No checks at all. -/
def empty : HealthChecks σ := ⟨[], [], false⟩

/-- The checks that every server has. -/
def new : HealthChecks σ := ⟨[HealthCheck.ping], [], false⟩

/-- Whether a name is taken, in either list. -/
def isTaken (checks : HealthChecks σ) (name : String) : Bool :=
  (checks.boot ++ checks.readiness).any fun check => check.name == name

/-- Adds checks one after the other by `put`, up to the first that is refused. -/
def addAll (put : HealthChecks σ → HealthCheck σ → HealthChecks σ) (checks : HealthChecks σ) :
    List (HealthCheck σ) → HealthChecks σ × Except HealthError Unit
  | [] => (checks, .ok ())
  | check :: rest =>
    if checks.installed then (checks, .error (.alreadyInstalled check.name))
    else if checks.isTaken check.name then (checks, .error (.duplicate check.name))
    else addAll put (put checks check) rest

/-- Adds checks that every endpoint serves. -/
def addBoot (checks : HealthChecks σ) (new : List (HealthCheck σ)) :
    HealthChecks σ × Except HealthError Unit :=
  addAll (fun checks check => { checks with boot := checks.boot ++ [check] }) checks new

/-- Adds checks that only `readyz` serves. -/
def addReadiness (checks : HealthChecks σ) (new : List (HealthCheck σ)) :
    HealthChecks σ × Except HealthError Unit :=
  addAll (fun checks check => { checks with readiness := checks.readiness ++ [check] }) checks new

/-- Freezes the registry. -/
def install (checks : HealthChecks σ) : HealthChecks σ := { checks with installed := true }

/-- The checks that an endpoint serves. -/
def served (checks : HealthChecks σ) : Endpoint → List (HealthCheck σ)
  | .readyz => checks.boot ++ checks.readiness
  | _ => checks.boot

/-- The names of the checks that an endpoint serves. -/
def names (checks : HealthChecks σ) (endpoint : Endpoint) : List String :=
  (checks.served endpoint).map HealthCheck.name

/-- Runs one check. -/
def run (conditions : σ) (check : HealthCheck σ) : CheckResult :=
  ⟨check.name, check.failure? conditions⟩

/-- Runs the checks of an endpoint except the excluded names. -/
def evaluate (checks : HealthChecks σ) (conditions : σ) (endpoint : Endpoint)
    (exclude : List String) : HealthReport where
  endpoint := endpoint
  results := ((checks.served endpoint).filter fun check => !exclude.contains check.name).map
    (run conditions)

/-- Runs a single check, if the endpoint serves it. -/
def evaluateOne? (checks : HealthChecks σ) (conditions : σ) (endpoint : Endpoint)
    (name : String) : Option CheckResult :=
  ((checks.served endpoint).find? fun check => check.name == name).map (run conditions)

end HealthChecks

end Aggregation
