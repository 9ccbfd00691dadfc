/-
**What a health request asks for, and what it is answered.**

The parameters of a health request are read from the left. `exclude` may be given any number of
times, and all of its values count; of `verbose` only the last one does. So parameters can be
reordered as long as those named `verbose` stay in order (`showChecks_perm`). There is a query for
every list of them (`exists_target`).

The path of an endpoint leads to its checks (`ofPath?_endpoint`), and a `GET` request is answered
with their report (`handle_checks`).
-/

import Aggregation.Http.Router
import Aggregation.Proofs.Health
import Aggregation.Proofs.Text.Form
import Mathlib.Data.List.Induction

namespace Aggregation.Http

/-! ### Parameters -/

/-- The parameters of a target. -/
def Target.parameters (target : Target) : List (String × String) :=
  target.query.elim [] Text.Form.pairs

/-- Any list of parameters can be asked for, of any path. -/
theorem exists_target (path : String) (parameters : List (String × String)) :
    ∃ target : Target, target.path = path ∧ target.parameters = parameters := by
  let query := Text.Form.write parameters
  exact ⟨⟨path, some query, path ++ "?" ++ query⟩, rfl, Text.Form.pairs_write parameters⟩

namespace HealthQuery

/-- The values given to a parameter, in their order. -/
def valuesOf (name : String) (parameters : List (String × String)) : List String :=
  (parameters.filter fun parameter => parameter.1 = name).map Prod.snd

/-- Nothing but the verdict is asked for: the last `verbose` says no, if there is one. -/
def IsBrief (parameters : List (String × String)) : Prop :=
  ∀ value ∈ (valuesOf "verbose" parameters).getLast?, value = "false" ∨ value = "0"

theorem valuesOf_concat_self (name value : String) (parameters : List (String × String)) :
    valuesOf name (parameters ++ [(name, value)]) = valuesOf name parameters ++ [value] := by
  simp [valuesOf]

theorem valuesOf_concat_of_ne {name : String} {parameter : String × String}
    (other : parameter.1 ≠ name) (parameters : List (String × String)) :
    valuesOf name (parameters ++ [parameter]) = valuesOf name parameters := by
  simp [valuesOf, other]

/-- The values of parameters that all have one name. -/
theorem valuesOf_map (name given : String) (values : List String) :
    valuesOf name (values.map fun value => (given, value)) =
      if given = name then values else [] := by
  induction values with
  | nil => simp [valuesOf]
  | cons value rest ih =>
    unfold valuesOf at ih ⊢
    by_cases same : given = name
    · simpa [same] using ih
    · simp [same]

theorem mem_valuesOf_perm {parameters others : List (String × String)}
    (reordered : parameters.Perm others) (name value : String) :
    value ∈ valuesOf name parameters ↔ value ∈ valuesOf name others :=
  ((reordered.filter _).map _).mem_iff

theorem exclude_take_of_ne {name : String} (other : name ≠ "exclude") (query : HealthQuery)
    (value : String) : (query.take (name, value)).exclude = query.exclude := by
  unfold take
  rw [if_neg (c := (name, value).1 = "exclude") other]
  split <;> rfl

theorem verbose_take_of_ne {name : String} (other : name ≠ "verbose") (query : HealthQuery)
    (value : String) : (query.take (name, value)).verbose = query.verbose := by
  unfold take
  rw [if_neg (c := (name, value).1 = "verbose") other]
  split <;> rfl

theorem ofParameters_concat (parameters : List (String × String)) (last : String × String) :
    ofParameters (parameters ++ [last]) = (ofParameters parameters).take last :=
  List.foldl_concat ..

/-- Every `exclude` counts. -/
theorem exclude_ofParameters (parameters : List (String × String)) :
    (ofParameters parameters).exclude = valuesOf "exclude" parameters := by
  induction parameters using List.reverseRecOn with
  | nil => rfl
  | append_singleton parameters last earlier =>
    obtain ⟨name, value⟩ := last
    rw [ofParameters_concat]
    by_cases excludes : name = "exclude"
    · subst excludes
      rw [valuesOf_concat_self, ← earlier]
      rfl
    · rw [valuesOf_concat_of_ne excludes, exclude_take_of_ne excludes, earlier]

/-- Of `verbose` the last one counts. -/
theorem verbose_ofParameters (parameters : List (String × String)) :
    (ofParameters parameters).verbose = false ↔ IsBrief parameters := by
  unfold IsBrief
  induction parameters using List.reverseRecOn with
  | nil => simp [ofParameters, valuesOf]
  | append_singleton parameters last earlier =>
    obtain ⟨name, value⟩ := last
    rw [ofParameters_concat]
    by_cases isVerbose : name = "verbose"
    · subst isVerbose
      simp [valuesOf_concat_self, take, or_iff_not_imp_left]
    · rw [valuesOf_concat_of_ne isVerbose, verbose_take_of_ne isVerbose, earlier]

end HealthQuery

/-! ### Answers -/

/-- An answer agrees with the results of some checks: its status with whether all of them passed,
and its body with the status and with whether it was to be brief. -/
structure Response.Reports (answer : Response) (endpoint : Endpoint) (results : List CheckResult)
    (brief : Prop) : Prop where
  status : answer.status = 200 ∨ answer.status = 500
  succeeds : answer.status = 200 ↔ ∀ result ∈ results, result.failure = none
  bare : answer.body = .ofText "ok" ↔ answer.status = 200 ∧ brief
  told : ¬(answer.status = 200 ∧ brief) → ∃ lines,
    List.Forall₂ (HealthReport.Tells brief) results lines ∧
      answer.body = .ofText ("".intercalate lines ++ endpoint.text ++ " check " ++
        (if answer.status = 200 then "passed" else "failed") ++ "\n")

theorem Response.Reports.congr {answer other : Response} {endpoint : Endpoint}
    {results : List CheckResult} {brief : Prop} (status : other.status = answer.status)
    (body : other.body = answer.body) (reports : answer.Reports endpoint results brief) :
    other.Reports endpoint results brief where
  status := by
    rw [status]
    exact reports.status
  succeeds := by
    rw [status]
    exact reports.succeeds
  bare := by
    rw [status, body]
    exact reports.bare
  told := by
    rw [status, body]
    exact reports.told

theorem status_showReport (report : HealthReport) (verbose : Bool) :
    (showReport report verbose).status = 200 ↔ report.isHealthy = true := by
  show (if report.isHealthy then 200 else 500) = 200 ↔ _
  cases report.isHealthy <;> decide

theorem reports_showReport (report : HealthReport) (verbose : Bool) :
    (showReport report verbose).Reports report.endpoint report.results (verbose = false) where
  status := by
    by_cases healthy : report.isHealthy = true
    · exact .inl (if_pos healthy)
    · exact .inr (if_neg healthy)
  succeeds := by rw [status_showReport, HealthReport.isHealthy_iff]
  bare := by
    rw [status_showReport]
    exact Bytes.ofText_inj.trans (report.render_eq_ok_iff verbose)
  told := by
    simp only [status_showReport]
    intro shown
    obtain ⟨lines, tells, whole⟩ := HealthReport.render_eq_lines shown
    exact ⟨lines, tells, congrArg Bytes.ofText whole⟩

theorem ofPath?_endpoint (endpoint : Endpoint) :
    Route.ofPath? ("/" ++ endpoint.text) = some (.checks endpoint) := by
  cases endpoint <;> decide +kernel

section Answers

variable {σ : Type} (checks : HealthChecks σ) (conditions : σ) (endpoint : Endpoint)

/-- Parameters may be reordered if those named `verbose` stay in order. -/
theorem showChecks_perm {parameters others : List (String × String)}
    (reordered : parameters.Perm others)
    (same : HealthQuery.valuesOf "verbose" parameters = HealthQuery.valuesOf "verbose" others) :
    showChecks checks conditions endpoint (.ofParameters parameters) =
      showChecks checks conditions endpoint (.ofParameters others) := by
  have verbose : (HealthQuery.ofParameters parameters).verbose =
      (HealthQuery.ofParameters others).verbose := by
    rw [Bool.eq_iff_iff, ← not_iff_not, Bool.not_eq_true, Bool.not_eq_true,
      HealthQuery.verbose_ofParameters, HealthQuery.verbose_ofParameters, HealthQuery.IsBrief,
      HealthQuery.IsBrief, same]
  unfold showChecks
  rw [verbose, HealthQuery.exclude_ofParameters, HealthQuery.exclude_ofParameters,
    HealthChecks.evaluate_congr checks conditions endpoint
      (HealthQuery.mem_valuesOf_perm reordered "exclude")]

theorem status_identified (id : Bytes) (response : Response) :
    (Router.identified id response).status = response.status := by
  unfold Router.identified
  split <;> rfl

theorem body_identified (id : Bytes) (response : Response) :
    (Router.identified id response).body = response.body := by
  unfold Router.identified
  split <;> rfl

/-- Identifying the request changes its headers only, and identifying the answer as well. -/
theorem Router.handle_of_dispatch (router : Router σ) (store : Store) (fresh : String)
    {request : Request} {shown : Response}
    (dispatched : ∀ headers : Headers,
      router.dispatch conditions store { request with headers := headers } = own shown) :
    ∃ id, (router.handle conditions store fresh request).1 =
      if request.method = "HEAD" then (identified id shown).withoutBody
      else identified id shown := by
  refine ⟨(request.headers.first? Headers.requestIdName).getD (.ofText fresh), ?_⟩
  unfold handle
  split <;> dsimp only
  · rw [dispatched request.headers]
    rfl
  · rw [dispatched]
    rfl

theorem Router.dispatch_checks (router : Router σ) (store : Store) {request : Request}
    (get : request.method = "GET") (target : request.target.path = "/" ++ endpoint.text) :
    router.dispatch conditions store request =
      own (showChecks router.checks conditions endpoint
        (.ofParameters request.target.parameters)) := by
  unfold dispatch
  rw [target, ofPath?_endpoint]
  exact if_pos (.inr (.inl get))

/-- A `GET` request for the path of an endpoint is answered with the report of its checks. -/
theorem Router.handle_checks (router : Router σ) (store : Store) (fresh : String)
    {request : Request} (get : request.method = "GET")
    (target : request.target.path = "/" ++ endpoint.text) :
    let answer := (router.handle conditions store fresh request).1
    let shown := showChecks router.checks conditions endpoint
      (.ofParameters request.target.parameters)
    answer.status = shown.status ∧ answer.body = shown.body := by
  intro answer shown
  have notHead : request.method ≠ "HEAD" := by
    rw [get]
    decide
  have dispatched (headers : Headers) :
      router.dispatch conditions store { request with headers := headers } = own shown :=
    dispatch_checks conditions endpoint router store get target
  obtain ⟨id, same⟩ := router.handle_of_dispatch conditions store fresh dispatched
  rw [if_neg notHead] at same
  unfold answer
  rw [same]
  exact ⟨status_identified id shown, body_identified id shown⟩

end Answers

end Aggregation.Http
