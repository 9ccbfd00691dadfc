/-
**What withheld reasons do not tell.**

Unless a request asks for more, the answer to it shows which checks failed, and leaves out why. So
two conditions under which the same checks pass, whatever makes the others fail, cannot be told
apart by such requests: a brief answer is made from reports without reasons
(`showReport_withheld`), and alike conditions give the same ones (`withheld_evaluate`,
`withheld_evaluateOne?`).

Nothing else is withheld. A check can be asked about alone by excluding all others
(`exists_probing`), so conditions under which another check passes are told apart. `handle_alike`
states both, for whole answers to requests of all kinds.
-/

import Aggregation.Proofs.Http.Health
import Mathlib.Data.List.Nodup

namespace Aggregation

/-! ### Without reasons -/

/-- A result without the reason of its failure. -/
def CheckResult.withheld (result : CheckResult) : CheckResult :=
  ⟨result.name, result.failure.map fun _ => "reason withheld"⟩

namespace HealthReport

/-- A report without the reasons of failures. -/
def withheld (report : HealthReport) : HealthReport :=
  ⟨report.endpoint, report.results.map CheckResult.withheld⟩

theorem isHealthy_withheld (report : HealthReport) :
    report.withheld.isHealthy = report.isHealthy := by
  unfold isHealthy withheld
  rw [List.all_map]
  congr 1
  funext result
  exact Option.isNone_map

/-- A line that is to be brief does not look at the reason. -/
theorem line_withheld (result : CheckResult) : line false result.withheld = line false result := by
  obtain ⟨name, failure⟩ := result
  cases failure <;> rfl

theorem render_withheld (report : HealthReport) :
    report.withheld.render false = report.render false := by
  have lines : report.withheld.results.map (line false) = report.results.map (line false) := by
    rw [withheld, List.map_map]
    exact List.map_congr_left fun result _ => line_withheld result
  unfold render
  rw [isHealthy_withheld, lines]
  rfl

end HealthReport

namespace HealthChecks

variable {σ : Type}

/-- The same checks pass under two conditions; the reasons of the others may differ. -/
def Alike (checks : HealthChecks σ) (first second : σ) : Prop :=
  ∀ check ∈ checks.served .readyz, check.failure? first = none ↔ check.failure? second = none

variable {checks : HealthChecks σ} {first second : σ}

theorem Alike.withheld_run (alike : checks.Alike first second) {endpoint : Endpoint}
    {check : HealthCheck σ} (served : check ∈ checks.served endpoint) :
    (run first check).withheld = (run second check).withheld := by
  have passes := alike check ((checks.served_sublist endpoint).subset served)
  unfold run CheckResult.withheld
  cases before : check.failure? first with
  | none => rw [passes.mp before]
  | some reason =>
    cases after : check.failure? second with
    | none => exact absurd (passes.mpr after) (by simp [before])
    | some other => rfl

theorem withheld_evaluate (alike : checks.Alike first second) (endpoint : Endpoint)
    (exclude : List String) :
    (checks.evaluate first endpoint exclude).withheld =
      (checks.evaluate second endpoint exclude).withheld := by
  unfold evaluate HealthReport.withheld
  simp only [List.map_map, HealthReport.mk.injEq, true_and]
  refine List.map_congr_left fun check member => ?_
  exact alike.withheld_run (List.mem_of_mem_filter member)

theorem withheld_evaluateOne? (alike : checks.Alike first second) (endpoint : Endpoint)
    (name : String) :
    (checks.evaluateOne? first endpoint name).map CheckResult.withheld =
      (checks.evaluateOne? second endpoint name).map CheckResult.withheld := by
  unfold evaluateOne?
  cases found : (checks.served endpoint).find? fun check => check.name == name with
  | none => rfl
  | some check => exact congrArg some (alike.withheld_run (List.mem_of_find?_eq_some found))

/-- An endpoint is healthy if every check passes that is not excluded. -/
theorem isHealthy_evaluate_iff (checks : HealthChecks σ) (conditions : σ) (endpoint : Endpoint)
    (exclude : List String) :
    (checks.evaluate conditions endpoint exclude).isHealthy = true ↔
      ∀ check ∈ checks.served endpoint, check.name ∉ exclude →
        check.failure? conditions = none := by
  rw [HealthReport.isHealthy_iff, results_evaluate]
  simp only [List.mem_filter, List.mem_map, decide_eq_true_eq, and_imp, forall_exists_index,
    forall_apply_eq_imp_iff₂]
  rfl

end HealthChecks

namespace Http

/-! ### Brief answers -/

theorem showReport_withheld (report : HealthReport) :
    showReport report.withheld false = showReport report false := by
  unfold showReport
  rw [report.isHealthy_withheld, report.render_withheld]

/-- Reports that differ in reasons only are shown alike. -/
theorem showReport_congr {report other : HealthReport} (same : report.withheld = other.withheld) :
    showReport report false = showReport other false := by
  rw [← showReport_withheld, same, showReport_withheld]

variable {σ : Type} {checks : HealthChecks σ} {first second : σ}

theorem showChecks_alike (alike : checks.Alike first second) (endpoint : Endpoint)
    {query : HealthQuery} (brief : query.verbose = false) :
    showChecks checks first endpoint query = showChecks checks second endpoint query := by
  unfold showChecks
  rw [brief]
  exact showReport_congr (HealthChecks.withheld_evaluate alike endpoint query.exclude)

theorem showOneCheck_alike (alike : checks.Alike first second) (endpoint : Endpoint) (name : String)
    {query : HealthQuery} (brief : query.verbose = false) :
    showOneCheck checks first endpoint name query =
      showOneCheck checks second endpoint name query := by
  have same := HealthChecks.withheld_evaluateOne? alike endpoint name
  unfold showOneCheck
  rw [brief]
  -- A name gives a result under both conditions or under none.
  cases before : checks.evaluateOne? first endpoint name with
  | none =>
    rw [before] at same
    rw [Option.map_eq_none_iff.mp same.symm]
  | some result =>
    rw [before] at same
    obtain ⟨other, after, withheld⟩ := Option.map_eq_some_iff.mp same.symm
    rw [after]
    refine showReport_congr ?_
    show HealthReport.mk endpoint [result.withheld] = ⟨endpoint, [other.withheld]⟩
    rw [withheld]

namespace Router

variable (router : Router σ) (store : Store) {request : Request}

theorem follow_alike (alike : router.checks.Alike first second)
    (brief : HealthQuery.IsBrief request.target.parameters) (route : Route) :
    router.follow first store request route = router.follow second store request route := by
  have quiet : (HealthQuery.ofTarget request.target).verbose = false :=
    (HealthQuery.verbose_ofParameters _).mpr brief
  cases route with
  | checks endpoint => exact congrArg own (showChecks_alike alike endpoint quiet)
  | oneCheck endpoint written =>
    simp only [follow]
    cases decodeParameter "name" written with
    | error response => rfl
    | ok name => exact congrArg own (showOneCheck_alike alike endpoint name quiet)
  | backends => rfl
  | backend group version rest => rfl

theorem dispatch_alike (alike : router.checks.Alike first second)
    (brief : HealthQuery.IsBrief request.target.parameters) :
    router.dispatch first store request = router.dispatch second store request := by
  unfold dispatch
  cases Route.ofPath? request.target.path with
  | none => rfl
  | some route => simp only [router.follow_alike store alike brief route]

theorem handle_of_alike (alike : router.checks.Alike first second) (fresh : String)
    (brief : HealthQuery.IsBrief request.target.parameters) :
    router.handle first store fresh request = router.handle second store fresh request := by
  have dispatched (headers : Headers) :
      router.dispatch first store { request with headers := headers } =
        router.dispatch second store { request with headers := headers } :=
    router.dispatch_alike store alike brief
  unfold handle
  split <;> dsimp only
  · rw [dispatched request.headers]
  · rw [dispatched]

/-- Whether a check passes can be found out without asking for more, by excluding all others. -/
theorem exists_probing (distinct : (router.checks.names .readyz).Nodup) {check : HealthCheck σ}
    (served : check ∈ router.checks.served .readyz) :
    ∃ request : Request, HealthQuery.IsBrief request.target.parameters ∧
      ∀ conditions fresh, (router.handle conditions store fresh request).1.status = 200 ↔
        check.failure? conditions = none := by
  let others := (router.checks.names .readyz).filter (· ≠ check.name)
  let parameters := others.map fun name => ("exclude", name)
  obtain ⟨target, path, written⟩ := exists_target "/readyz" parameters
  have excluded : (HealthQuery.ofParameters target.parameters).exclude = others := by
    rw [written, HealthQuery.exclude_ofParameters, HealthQuery.valuesOf_map, if_pos rfl]
  have brief : HealthQuery.IsBrief target.parameters := by
    rw [written, HealthQuery.IsBrief, HealthQuery.valuesOf_map, if_neg (by decide)]
    intro value member
    cases member
  refine ⟨⟨"GET", target, [], []⟩, brief, fun conditions fresh => ?_⟩
  rw [(router.handle_checks conditions .readyz store fresh rfl path).1, showChecks,
    status_showReport, HealthChecks.isHealthy_evaluate_iff, excluded]
  -- Under different names the check itself is all that is not excluded.
  constructor
  · exact fun passed => passed check served (by simp [others])
  · intro passes other member kept
    have named : other.name = check.name := by
      by_contra differs
      refine kept (List.mem_filter.mpr ⟨List.mem_map_of_mem member, ?_⟩)
      simpa using differs
    rwa [List.inj_on_of_nodup_map distinct member served named]

/-- **Withheld reasons are not told, and nothing else is withheld.** If the same checks pass under
two conditions, every request that does not ask for more is answered in the same way under both,
whatever makes the others fail: on the paths of endpoints, on those of single checks, and on all
others. If the names of checks are different, this is so under no other conditions. -/
theorem handle_alike (fresh : String) (first second : σ) :
    (router.checks.Alike first second → ∀ request : Request,
        HealthQuery.IsBrief request.target.parameters →
        router.handle first store fresh request = router.handle second store fresh request) ∧
      ((router.checks.names .readyz).Nodup →
        (∀ request : Request, HealthQuery.IsBrief request.target.parameters →
          router.handle first store fresh request = router.handle second store fresh request) →
        router.checks.Alike first second) := by
  refine ⟨fun alike request => router.handle_of_alike store alike fresh, ?_⟩
  intro distinct same check served
  obtain ⟨request, brief, told⟩ := router.exists_probing store distinct served
  rw [← told first fresh, ← told second fresh, same request brief]

/-- A server that is ready once a gate is passed. -/
def gated : Router Gate :=
  ⟨⟨[.ping], [.gate Gate.completion id], true⟩, ⟨.empty, none, .offline⟩⟩

/-- A gate that waits for the versions of a group. -/
def waitingFor (group : String) (versions : List String) : Gate :=
  ⟨Gate.completion, versions.map (Identity.mk group), true⟩

/-- A request for the readiness of a server. -/
def askReady (query : String) : Request :=
  ⟨"GET", ⟨"/readyz", some query, "/readyz?" ++ query⟩, [], []⟩

/-- What a gate waits for is told to those who ask for more, and to nobody else. -/
theorem handle_alike_gated :
    let first := waitingFor "apps" ["v1"]
    let second := waitingFor "batch" ["v1", "v2"]
    let answer (gate : Gate) (query : String) :=
      (gated.handle gate (Store.new (.forAggregator "/registry" .json)) "id" (askReady query)).1
    answer first "verbose&verbose=0" = answer second "verbose&verbose=0" ∧
      (answer first "verbose&verbose=0").status = 500 ∧
      (answer first "verbose").body ≠ (answer second "verbose").body := by
  have alike : gated.checks.Alike (waitingFor "apps" ["v1"]) (waitingFor "batch" ["v1", "v2"]) := by
    unfold HealthChecks.Alike
    decide +kernel
  have brief : HealthQuery.IsBrief (askReady "verbose&verbose=0").target.parameters := by
    unfold HealthQuery.IsBrief
    decide +kernel
  have same := (handle_alike gated (Store.new (.forAggregator "/registry" .json)) "id" _ _).1 alike
    (askReady "verbose&verbose=0") brief
  refine ⟨congrArg Prod.fst same, ?_, ?_⟩ <;> decide +kernel

end Router

end Http

end Aggregation
