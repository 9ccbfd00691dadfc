/-
**Metrics.**

The parts of the aggregator report `Observation`s; `Metrics` keeps, for each series that was ever
observed, its present value. A gauge takes the observed value, a counter goes up by one. The
exposition has one line per series, in the order of the lines' text.
-/

import Aggregation.Table
import Aggregation.Text.Label

namespace Aggregation

/-- How a submission to the registry ended. -/
inductive SubmissionOutcome where
  | created
  | unchanged
  | failed
deriving DecidableEq

/-- Something worth counting. -/
inductive Observation where
  /-- A gate changed and now waits for `count` backends. -/
  | pendingBackends (gate : String) (count : Nat)
  /-- A backend was submitted. -/
  | submission (outcome : SubmissionOutcome)
  /-- A status event was handled. -/
  | statusEvent (available : Bool)
  /-- A backend's condition was observed. -/
  | backendAvailable (backend : String) (available : Bool)
  /-- A forwarded request was answered. -/
  | proxied (method : String) (status : Nat) (backend : String)
deriving DecidableEq

/-- A metric with its labels. -/
inductive Series where
  | pendingBackends (gate : String)
  | registrations (outcome : SubmissionOutcome)
  | statusEvents (available : Bool)
  | backendAvailable (backend : String)
  | proxyRequests (method : String) (status : Nat) (backend : String)
  | proxyDurations (backend : String)
deriving DecidableEq

namespace SubmissionOutcome

/-- The outcome's label. -/
def text : SubmissionOutcome → String
  | created => "created"
  | unchanged => "unchanged"
  | failed => "failed"

end SubmissionOutcome

namespace Series

/-- A label with its value in quotes. -/
def labelled (name value : String) : String := name ++ "=\"" ++ Text.label value ++ "\""

/-- The name of the metric. -/
def metric : Series → String
  | pendingBackends _ => "aggregator_pending_backends"
  | registrations _ => "aggregator_registrations_total"
  | statusEvents _ => "aggregator_status_events_total"
  | backendAvailable _ => "aggregator_backend_available"
  | proxyRequests _ _ _ => "aggregator_proxy_requests_total"
  | proxyDurations _ => "aggregator_proxy_request_duration_seconds_count"

/-- The labels in their order of writing. -/
def labels : Series → List String
  | pendingBackends gate => [labelled "gate" gate]
  | registrations outcome => [labelled "outcome" outcome.text]
  | statusEvents available => [labelled "available" (toString available)]
  | backendAvailable backend => [labelled "backend" backend]
  | proxyRequests method status backend =>
    [labelled "method" method, labelled "status" (toString status), labelled "backend" backend]
  | proxyDurations backend => [labelled "backend" backend]

/-- The sample line of a series. -/
def line (series : Series) (value : Nat) : String :=
  series.metric ++ "\x7b" ++ ",".intercalate series.labels ++ "\x7d " ++ toString value

end Series

/-- The present value of every series observed so far. -/
abbrev Metrics := Table Series Nat

namespace Metrics

/-- Adds one to a counter. -/
def count (metrics : Metrics) (series : Series) : Metrics :=
  metrics.insert series ((metrics.get? series).getD 0 + 1)

/-- Takes an observation into account. -/
def observe (metrics : Metrics) : Observation → Metrics
  | .pendingBackends gate count => metrics.insert (.pendingBackends gate) count
  | .submission outcome => metrics.count (.registrations outcome)
  | .statusEvent available => metrics.count (.statusEvents available)
  | .backendAvailable backend available =>
    metrics.insert (.backendAvailable backend) (if available then 1 else 0)
  | .proxied method status backend =>
    (metrics.count (.proxyRequests method status backend)).count (.proxyDurations backend)

/-- Takes observations into account in their order. -/
def observeAll (metrics : Metrics) (observations : List Observation) : Metrics :=
  observations.foldl observe metrics

/-- The exposition: the sample lines in the order of their text. -/
def lines (metrics : Metrics) : List String :=
  (metrics.entries.map fun (series, value) => series.line value).mergeSort
    fun a b => (compare a b).isLE

end Metrics

end Aggregation
