/-
**One check, and all checks of an endpoint.**

A check can be asked for by its name, or with all others of an endpoint. The first way looks for the
first check of the name, the second runs whatever is not excluded. Names are different in every
registry that checks were registered in, so both ways tell the same:

* `evaluateOne?_eq_some_iff`: what one check gives is the one result of its name among all;
* `evaluate_eq`: excluding names takes their results out, and changes nothing else;
* `isHealthy_of_readyz`: the checks of `readyz` are those of the other endpoints and more.

A request for one check is answered accordingly (`status_showOneCheck`), and `single_exact` puts
this together for all requests.
-/

import Aggregation.Proofs.Health.Registry
import Aggregation.Proofs.Http.Health
import Aggregation.Proofs.Http.Router

namespace Aggregation

/-! ### Results -/

/-- If keys are different, the first item of a key is the only one. -/
theorem filter_eq_toList_find? {α β : Type} [DecidableEq β] (key : α → β) {items : List α}
    (distinct : (items.map key).Nodup) (wanted : β) :
    items.filter (fun item => key item = wanted) =
      (items.find? fun item => key item = wanted).toList := by
  induction items with
  | nil => rfl
  | cons first rest ih =>
    rw [List.map_cons, List.nodup_cons] at distinct
    by_cases found : key first = wanted
    · have others : rest.filter (fun item => key item = wanted) = [] := by
        refine List.filter_eq_nil_iff.mpr fun item member same => distinct.1 ?_
        rw [found, ← of_decide_eq_true same]
        exact List.mem_map_of_mem member
      rw [List.filter_cons_of_pos (by simpa using found), others,
        List.find?_cons_of_pos (by simpa using found)]
      rfl
    · rw [List.filter_cons_of_neg (by simpa using found),
        List.find?_cons_of_neg (by simpa using found)]
      exact ih distinct.2

namespace HealthChecks

variable {σ : Type} (checks : HealthChecks σ) (conditions : σ) (endpoint : Endpoint)

/-- What all checks of an endpoint give. -/
def findings : List CheckResult := (checks.evaluate conditions endpoint []).results

theorem findings_eq : checks.findings conditions endpoint =
    (checks.served endpoint).map (run conditions) := by
  rw [findings, results_evaluate]
  exact List.filter_eq_self.mpr fun result _ => decide_eq_true List.not_mem_nil

theorem names_findings :
    (checks.findings conditions endpoint).map CheckResult.name = checks.names endpoint := by
  rw [findings_eq, List.map_map]
  rfl

/-- **Excluding names takes their results out**, and leaves the others in their order. -/
theorem evaluate_eq (exclude : List String) : checks.evaluate conditions endpoint exclude =
    ⟨endpoint, (checks.findings conditions endpoint).filter (·.name ∉ exclude)⟩ := by
  rw [findings_eq, ← results_evaluate]
  rfl

theorem evaluateOne?_eq (name : String) : checks.evaluateOne? conditions endpoint name =
    (checks.findings conditions endpoint).find? fun result => result.name = name := by
  rw [findings_eq, List.find?_map]
  rfl

/-- A check gives a result if it is served. -/
theorem isSome_evaluateOne?_iff (name : String) :
    (checks.evaluateOne? conditions endpoint name).isSome = true ↔
      name ∈ checks.names endpoint := by
  rw [evaluateOne?_eq, List.find?_isSome, ← names_findings checks conditions, List.mem_map]
  simp only [decide_eq_true_eq]

variable {checks conditions endpoint}

theorem nodup_names (distinct : (checks.names .readyz).Nodup) (endpoint : Endpoint) :
    (checks.names endpoint).Nodup :=
  ((checks.served_sublist endpoint).map HealthCheck.name).nodup distinct

/-- **What one check gives is the one result of its name.** -/
theorem evaluateOne?_eq_some_iff (distinct : (checks.names .readyz).Nodup) {name : String}
    {result : CheckResult} :
    checks.evaluateOne? conditions endpoint name = some result ↔
      (checks.findings conditions endpoint).filter (·.name = name) = [result] := by
  have names : ((checks.findings conditions endpoint).map CheckResult.name).Nodup := by
    rw [names_findings]
    exact nodup_names distinct endpoint
  rw [filter_eq_toList_find? CheckResult.name names, ← evaluateOne?_eq]
  cases checks.evaluateOne? conditions endpoint name <;> simp

/-- **What makes `readyz` healthy makes the other endpoints healthy.** -/
theorem isHealthy_of_readyz {exclude : List String}
    (ready : (checks.evaluate conditions .readyz exclude).isHealthy = true) :
    (checks.evaluate conditions endpoint exclude).isHealthy = true := by
  rw [HealthReport.isHealthy_iff, evaluate_eq] at ready ⊢
  intro result member
  refine ready result (List.Sublist.subset (List.Sublist.filter _ ?_) member)
  rw [findings_eq, findings_eq]
  exact (checks.served_sublist endpoint).map _

/-- An exclusion that leaves one check of an endpoint. -/
def Singles (checks : HealthChecks σ) (endpoint : Endpoint) (name : String)
    (exclude : List String) : Prop :=
  ∀ other ∈ checks.names endpoint, other ∈ exclude ↔ other ≠ name

theorem singles_filter (checks : HealthChecks σ) (endpoint : Endpoint) (name : String) :
    checks.Singles endpoint name ((checks.names endpoint).filter (· ≠ name)) := by
  intro other member
  simp [member]

/-- Without the others, a check is all that an endpoint reports. -/
theorem evaluate_of_singles (distinct : (checks.names .readyz).Nodup) {name : String}
    {exclude : List String} (singles : checks.Singles endpoint name exclude)
    {result : CheckResult} (given : checks.evaluateOne? conditions endpoint name = some result) :
    checks.evaluate conditions endpoint exclude = ⟨endpoint, [result]⟩ := by
  have same : ∀ finding ∈ checks.findings conditions endpoint,
      decide (finding.name ∉ exclude) = decide (finding.name = name) := by
    intro finding member
    have served : finding.name ∈ checks.names endpoint := by
      rw [← names_findings checks conditions]
      exact List.mem_map_of_mem member
    rw [decide_eq_decide, singles _ served, not_not]
  rw [evaluate_eq, List.filter_congr same, (evaluateOne?_eq_some_iff distinct).mp given]

end HealthChecks

namespace Http

/-! ### Requests for one check -/

/-- A request asks for one check of an endpoint: its path is that of the endpoint with one more
part, which stands for the name of the check. -/
structure AsksFor (request : Request) (endpoint : Endpoint) (name : String) : Prop where
  method : request.method = "GET" ∨ request.method = "HEAD"
  path : ∃ written : String,
    request.target.path = "/" ++ endpoint.text ++ "/" ++ written ∧
      written ≠ "" ∧ '/' ∉ written.toList ∧
      Text.Utf8.decode? (Text.Percent.decode written.toList) = some name.toList

/-- Every check with a name can be asked for. -/
theorem exists_asksFor (endpoint : Endpoint) {name : String} (named : name ≠ "") :
    ∃ request, AsksFor request endpoint name := by
  let written := (Text.Utf8.encode name.toList).flatMap Text.Percent.triplet
  have decoded : Text.Utf8.decode? (Text.Percent.decode written) = some name.toList := by
    rw [Text.Percent.decode_flatMap_triplet, Text.Utf8.decode?_encode]
  have undivided : '/' ∉ written := by
    intro member
    obtain ⟨byte, -, inTriplet⟩ := List.mem_flatMap.mp member
    have mark := Text.Percent.mem_marks_of_mem_triplet inTriplet
    revert mark
    decide
  have given : written ≠ [] := by
    intro nothing
    rw [nothing] at decoded
    have empty : name.toList = [] :=
      Option.some.inj (decoded.symm.trans (Text.Utf8.decode?_encode []))
    exact named (String.toList_eq_nil_iff.mp empty)
  let path := "/" ++ endpoint.text ++ "/" ++ String.ofList written
  refine ⟨⟨"GET", ⟨path, none, path⟩, [], []⟩, .inl rfl, String.ofList written, rfl, ?_, ?_, ?_⟩
  · simpa using given
  · simpa using undivided
  · simpa using decoded

/-- Only the start of an endpoint's own path is found in front of what is below it. -/
theorem afterStart?_endpoint (other endpoint : Endpoint) (rest : List Char) :
    Route.afterStart? ("/" ++ other.text) (("/" ++ endpoint.text).toList ++ rest) =
      if other = endpoint then some rest else none := by
  by_cases same : other = endpoint
  · rw [same, if_pos rfl, afterStart?_append]
  · rw [if_neg same]
    cases other <;> cases endpoint <;> simp [Route.afterStart?, Endpoint.text] at same ⊢

/-- Whatever starts like the path of an endpoint is left to that endpoint. -/
theorem ofPath?_below (endpoint : Endpoint) {path : String} {rest : List Char}
    (chars : path.toList = ("/" ++ endpoint.text).toList ++ rest) :
    Route.ofPath? path = Route.ofEndpoint? endpoint rest := by
  have notListing : path ≠ "/aggregator/backends" := by
    rintro rfl
    have second := congrArg (fun chars : List Char => chars[1]?) chars
    cases endpoint <;> simp [Endpoint.text] at second
  have notBelow : Route.afterStart? "/apis/" (("/" ++ endpoint.text).toList ++ rest) = none := by
    cases endpoint <;> simp [Route.afterStart?, Endpoint.text]
  have health : "/healthz" = "/" ++ Endpoint.healthz.text := by decide
  have live : "/livez" = "/" ++ Endpoint.livez.text := by decide
  have ready : "/readyz" = "/" ++ Endpoint.readyz.text := by decide
  unfold Route.ofPath?
  rw [if_neg notListing, chars, notBelow, health, live, ready, afterStart?_endpoint,
    afterStart?_endpoint, afterStart?_endpoint]
  cases endpoint <;> simp

/-- The path of one check leads to it. -/
theorem ofPath?_oneCheck (endpoint : Endpoint) {written : String} (given : written ≠ "")
    (undivided : '/' ∉ written.toList) :
    Route.ofPath? ("/" ++ endpoint.text ++ "/" ++ written) =
      some (.oneCheck endpoint written.toList) := by
  have chars : ("/" ++ endpoint.text ++ "/" ++ written).toList =
      ("/" ++ endpoint.text).toList ++ '/' :: written.toList := by
    simp
  rw [ofPath?_below endpoint chars]
  simp [Route.ofEndpoint?, given, undivided]

variable {σ : Type} {checks : HealthChecks σ} {conditions : σ} {endpoint : Endpoint}
  {name : String}

/-- A request for one check is answered with what that check gives. -/
theorem Router.dispatch_asksFor (router : Router σ) (store : Store) {request : Request}
    (asks : AsksFor request endpoint name) :
    router.dispatch conditions store request =
      own (showOneCheck router.checks conditions endpoint name (.ofTarget request.target)) := by
  obtain ⟨written, path, given, undivided, decoded⟩ := asks.path
  have parameter : decodeParameter "name" written.toList = .ok name := by
    unfold decodeParameter
    rw [decoded]
    exact congrArg Except.ok String.ofList_toList
  unfold dispatch
  rw [path, ofPath?_oneCheck endpoint given undivided]
  show (if _ then router.follow conditions store request (.oneCheck endpoint written.toList)
    else _) = _
  rw [if_pos (.inr asks.method)]
  simp only [follow, parameter]

/-- A request for one check has the status of what that check gives. -/
theorem Router.status_handle_asksFor (router : Router σ) (store : Store) (fresh : String)
    {request : Request} (asks : AsksFor request endpoint name) :
    (router.handle conditions store fresh request).1.status =
      (showOneCheck router.checks conditions endpoint name (.ofTarget request.target)).status := by
  have dispatched (headers : Headers) :
      router.dispatch conditions store { request with headers := headers } =
        own (showOneCheck router.checks conditions endpoint name (.ofTarget request.target)) :=
    router.dispatch_asksFor store ⟨asks.method, asks.path⟩
  obtain ⟨id, same⟩ := router.handle_of_dispatch conditions store fresh dispatched
  rw [same]
  split <;> exact status_identified id _

theorem status_showOneCheck_of_some {result : CheckResult} (query : HealthQuery)
    (given : checks.evaluateOne? conditions endpoint name = some result) :
    (showOneCheck checks conditions endpoint name query).status =
      if (⟨endpoint, [result]⟩ : HealthReport).isHealthy then 200 else 500 := by
  unfold showOneCheck
  rw [given]
  rfl

theorem status_showOneCheck_of_none (query : HealthQuery)
    (missing : checks.evaluateOne? conditions endpoint name = none) :
    (showOneCheck checks conditions endpoint name query).status = 404 := by
  unfold showOneCheck
  rw [missing]
  rfl

/-- **One check is answered as all checks would be without the others**, if it is served. -/
theorem status_showOneCheck (distinct : (checks.names .readyz).Nodup) (query : HealthQuery)
    {exclude : List String} (singles : checks.Singles endpoint name exclude) :
    (showOneCheck checks conditions endpoint name query).status =
      if name ∈ checks.names endpoint then
        if (checks.evaluate conditions endpoint exclude).isHealthy then 200 else 500
      else 404 := by
  have served := checks.isSome_evaluateOne?_iff conditions endpoint name
  cases given : checks.evaluateOne? conditions endpoint name with
  | none =>
    rw [given] at served
    have unserved : name ∉ checks.names endpoint := fun known => by simpa using served.mpr known
    rw [status_showOneCheck_of_none query given, if_neg unserved]
  | some result =>
    rw [given] at served
    rw [status_showOneCheck_of_some query given, if_pos (served.mp rfl),
      HealthChecks.evaluate_of_singles distinct singles given]

/-- **One check agrees with all checks.** In a registry that was started empty or with its first
check, whatever was called on it, and whatever the conditions: a name gives a result exactly if it
is served, which is the one of its name among those of all checks; excluded names are taken out and
nothing else; what makes `readyz` healthy makes every endpoint healthy; and a request for one check,
which there is for every name that is not empty, is answered with 404 if the name is not served, and
otherwise as the endpoint would be if all others were excluded. -/
theorem single_exact (start : HealthChecks σ) (started : start = .empty ∨ start = .new)
    (calls : List (HealthChecks.Call σ)) (conditions : σ) (endpoint : Endpoint) :
    let checks := start.callAll calls
    let all := (checks.evaluate conditions endpoint []).results
    (∀ name, (checks.evaluateOne? conditions endpoint name).isSome = true ↔
        name ∈ checks.names endpoint) ∧
      (∀ name result, checks.evaluateOne? conditions endpoint name = some result ↔
        all.filter (·.name = name) = [result]) ∧
      (∀ exclude, checks.evaluate conditions endpoint exclude =
        ⟨endpoint, all.filter (·.name ∉ exclude)⟩) ∧
      (∀ exclude, (checks.evaluate conditions .readyz exclude).isHealthy = true →
        (checks.evaluate conditions endpoint exclude).isHealthy = true) ∧
      (∀ name, name ≠ "" → ∃ request, AsksFor request endpoint name) ∧
      (∀ forwarder store fresh request name exclude, AsksFor request endpoint name →
        checks.Singles endpoint name exclude →
        ((⟨checks, forwarder⟩ : Router σ).handle conditions store fresh request).1.status =
          if name ∈ checks.names endpoint then
            if (checks.evaluate conditions endpoint exclude).isHealthy then 200 else 500
          else 404) := by
  intro checks all
  have distinct : (checks.names .readyz).Nodup := by
    refine HealthChecks.nodup_callAll ?_ calls
    rcases started with rfl | rfl
    · exact List.nodup_nil
    · exact List.pairwise_singleton _ _
  refine ⟨checks.isSome_evaluateOne?_iff conditions endpoint,
    fun name result => HealthChecks.evaluateOne?_eq_some_iff distinct,
    checks.evaluate_eq conditions endpoint, fun exclude => HealthChecks.isHealthy_of_readyz,
    fun name named => exists_asksFor endpoint named, ?_⟩
  intro forwarder store fresh request name exclude asks singles
  rw [Router.status_handle_asksFor _ store fresh asks]
  exact status_showOneCheck distinct _ singles

/-- What is called when a server comes up that knows whether it is shutting down. -/
def comingUp : List (HealthChecks.Call Shutdown) := [.addBoot [.shutdown id], .install]

theorem asksFor_requestFor {written : String} (given : written ≠ "")
    (undivided : '/' ∉ written.toList) (plain : Text.Percent.hasTriplet written.toList = false) :
    AsksFor (Router.requestFor ("/" ++ endpoint.text ++ "/" ++ written)) endpoint written :=
  ⟨.inl rfl, written, rfl, given, undivided, Text.Percent.decode?_decode_eq_iff.mpr plain⟩

/-- During a shutdown one check passes, one fails, and another is not there. -/
theorem single_exact_closing :
    let router : Router Shutdown :=
      ⟨HealthChecks.new.callAll comingUp, ⟨.empty, none, .offline⟩⟩
    let status (path : String) := (router.handle Shutdown.new.trigger Router.twoBackends "id"
      (Router.requestFor path)).1.status
    status "/livez/ping" = 200 ∧ status "/livez/shutdown" = 500 ∧ status "/livez/gate" = 404 := by
  have exact := single_exact .new (.inr rfl) comingUp Shutdown.new.trigger .livez
  have status (name : String) (named : name ∈ ["ping", "shutdown", "gate"]) :=
    exact.2.2.2.2.2 ⟨.empty, none, .offline⟩ Router.twoBackends "id"
      (Router.requestFor ("/" ++ Endpoint.livez.text ++ "/" ++ name)) name _
      (asksFor_requestFor (by revert named name; decide) (by revert named name; decide)
        (by revert named name; decide))
      (HealthChecks.singles_filter _ .livez name)
  refine ⟨(status "ping" (by decide)).trans ?_, (status "shutdown" (by decide)).trans ?_,
    (status "gate" (by decide)).trans ?_⟩
  all_goals decide +kernel

end Http

end Aggregation
