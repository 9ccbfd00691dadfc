/-
**Which series there are.**

Metrics hold one value for each series that was ever observed, and an observation touches the series
of its own labels only. So the series after any observations are those from before and those that
the observations touch (`mem_keys_observeAll`); what they count makes no difference.
-/

import Aggregation.Metrics
import Mathlib.Data.List.Nodup

namespace Aggregation

/-- A written key is among the keys, and so is every key from before. -/
theorem Table.mem_keys_insert {κ α : Type} [DecidableEq κ] (table : Table κ α) (key other : κ)
    (value : α) : other ∈ (table.insert key value).keys ↔ other ∈ table.keys ∨ other = key := by
  rw [← contains_iff, ← contains_iff, contains, contains, get?_insert]
  by_cases same : other = key
  · simp [same]
  · simp [same]

/-- The series that an observation touches. -/
def Observation.series : Observation → List Series
  | pendingBackends gate _ => [.pendingBackends gate]
  | submission outcome => [.registrations outcome]
  | statusEvent available => [.statusEvents available]
  | backendAvailable backend _ => [.backendAvailable backend]
  | proxied method status backend =>
    [.proxyRequests method status backend, .proxyDurations backend]

namespace Metrics

theorem mem_keys_count (metrics : Metrics) (counted series : Series) :
    series ∈ (metrics.count counted).keys ↔ series ∈ metrics.keys ∨ series = counted :=
  Table.mem_keys_insert metrics counted series _

/-- An observation adds the series that it touches. -/
theorem mem_keys_observe (metrics : Metrics) (observation : Observation) (series : Series) :
    series ∈ (metrics.observe observation).keys ↔
      series ∈ metrics.keys ∨ series ∈ observation.series := by
  cases observation with
  | pendingBackends gate count =>
    rw [observe, Table.mem_keys_insert, Observation.series, List.mem_singleton]
  | submission outcome => rw [observe, mem_keys_count, Observation.series, List.mem_singleton]
  | statusEvent available => rw [observe, mem_keys_count, Observation.series, List.mem_singleton]
  | backendAvailable backend available =>
    rw [observe, Table.mem_keys_insert, Observation.series, List.mem_singleton]
  | proxied method status backend =>
    rw [observe, mem_keys_count, mem_keys_count, Observation.series, List.mem_cons,
      List.mem_singleton, or_assoc]

/-- **The series are those that were ever touched.** -/
theorem mem_keys_observeAll (metrics : Metrics) (observations : List Observation)
    (series : Series) :
    series ∈ (metrics.observeAll observations).keys ↔
      series ∈ metrics.keys ∨ ∃ observation ∈ observations, series ∈ observation.series := by
  induction observations generalizing metrics with
  | nil => simp [observeAll]
  | cons first rest ih =>
    show series ∈ ((metrics.observe first).observeAll rest).keys ↔ _
    simp only [ih, mem_keys_observe, or_assoc, List.mem_cons, exists_eq_or_imp]

/-! ### The series of requests -/

/-- The method, status and backend under which requests count. -/
abbrev RequestLabels := String × Nat × String

/-- The labels of a series of requests. -/
def requestLabels? : Series → Option RequestLabels
  | .proxyRequests method status backend => some (method, status, backend)
  | _ => none

/-- The labels of all series of requests. -/
def requestLabels (metrics : Metrics) : List RequestLabels := metrics.keys.filterMap requestLabels?

theorem requestLabels?_eq_some_iff (series : Series) (labels : RequestLabels) :
    requestLabels? series = some labels ↔
      series = .proxyRequests labels.1 labels.2.1 labels.2.2 := by
  obtain ⟨method, status, backend⟩ := labels
  cases series with
  | proxyRequests => simp [requestLabels?]
  | pendingBackends | registrations | statusEvents | backendAvailable | proxyDurations =>
    simp [requestLabels?]

theorem mem_requestLabels (metrics : Metrics) (labels : RequestLabels) :
    labels ∈ metrics.requestLabels ↔
      Series.proxyRequests labels.1 labels.2.1 labels.2.2 ∈ metrics.keys := by
  unfold requestLabels
  rw [List.mem_filterMap]
  constructor
  · rintro ⟨series, known, found⟩
    exact (requestLabels?_eq_some_iff series labels).mp found ▸ known
  · intro known
    exact ⟨_, known, rfl⟩

/-- No two series of requests have the same labels. -/
theorem nodup_requestLabels (metrics : Metrics) : metrics.requestLabels.Nodup := by
  refine List.Nodup.filterMap ?_ metrics.distinct
  intro first second labels own also
  rw [Option.mem_def, requestLabels?_eq_some_iff] at own also
  rw [own, also]

end Metrics

end Aggregation
