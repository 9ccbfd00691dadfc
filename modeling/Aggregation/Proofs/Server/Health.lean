/-
**What the health endpoints of a server say.**

Every server has the same three checks: one that always passes, its gate, and on `readyz` its
shutdown. So what an endpoint finds (`findings`) depends on the gate and on the flag of the shutdown
alone, and an endpoint passes if each of these two is excluded or has nothing against it
(`passes_iff`).

`handle_health` says what is answered to any request for an endpoint, in any state that events and
triggers lead to: the status tells whether the endpoint passes, the body agrees with the status and
with each check, and reordering the parameters changes nothing as long as those named `verbose` stay
in order.
-/

import Aggregation.Proofs.Http.Health
import Aggregation.Proofs.Server

namespace Aggregation

/-! ### What happens to a server -/

namespace Aggregator

/-- What bears on the checks of a server: the status of a backend, or a trigger of shutdown. -/
inductive Occurrence where
  | status (event : StatusEvent)
  | trigger
deriving DecidableEq

/-- The state after an occurrence. -/
def after (aggregator : Aggregator) : Occurrence → Aggregator
  | .status event =>
    let (gate, _, observed) := aggregator.gate.onEvent event
    observe { aggregator with gate := gate } observed
  | .trigger => { aggregator with shutdown := aggregator.shutdown.trigger }

/-- The state after occurrences one after the other. -/
def afterAll (aggregator : Aggregator) (occurrences : List Occurrence) : Aggregator :=
  occurrences.foldl after aggregator

theorem triggered_after (aggregator : Aggregator) (occurrence : Occurrence) :
    (aggregator.after occurrence).shutdown.triggered = true ↔
      aggregator.shutdown.triggered = true ∨ occurrence = .trigger := by
  cases occurrence with
  | status event => simp [after, observe]
  | trigger => simp [after, Shutdown.trigger, Shutdown.raise, Shutdown.signal]

/-- Shutdown has been triggered if it was at the start or one of the occurrences triggered it. -/
theorem triggered_afterAll (aggregator : Aggregator) (occurrences : List Occurrence) :
    (aggregator.afterAll occurrences).shutdown.triggered = true ↔
      aggregator.shutdown.triggered = true ∨ .trigger ∈ occurrences := by
  unfold afterAll
  induction occurrences generalizing aggregator with
  | nil => simp
  | cons first rest later =>
    rw [List.foldl_cons, later, triggered_after, List.mem_cons, or_assoc, eq_comm (a := first)]

end Aggregator

namespace Server

/-! ### The checks of a server -/

/-- The checks that every server has. -/
def ownChecks : HealthChecks Aggregator :=
  ⟨[.ping, .gate Gate.completion Aggregator.gate], [.shutdown Aggregator.shutdown], false⟩

theorem makeChecks_eq : makeChecks = .ok ownChecks := rfl

theorem shutdown_prepare (assembly : Assembly) (paths : List String) (store : Store)
    (shutdown : Shutdown) (environment : Environment) :
    (prepare assembly paths store shutdown environment).shutdown = shutdown := rfl

theorem of_build_eq_ok {assembly : Assembly} {paths : List String} {store : Store}
    {shutdown : Shutdown} {environment : Environment} {server : Server}
    (built : build assembly paths store shutdown environment = .ok server) :
    server.checks = ownChecks ∧
      server.aggregator = prepare assembly paths store shutdown environment := by
  unfold build at built
  rw [makeChecks_eq] at built
  cases hooked : StartHook.addAll assembly.options.hooks (StartHook.all assembly.settings) with
  | error error =>
    rw [hooked] at built
    cases built
  | ok hooks =>
    rw [hooked] at built
    cases built
    exact ⟨rfl, rfl⟩

/-- What an endpoint finds: its checks in the order of their registration. -/
def findings (state : Aggregator) (endpoint : Endpoint) : List CheckResult :=
  ⟨"ping", none⟩ ::
  ⟨"autoregister-completion", if state.gate.pending = [] then none
    else some (PendingBackends.message ⟨state.gate.pending⟩)⟩ ::
  if endpoint = .readyz then
    [⟨"shutdown", if state.shutdown.triggered then some "process is shutting down" else none⟩]
  else []

theorem run_served (state : Aggregator) (endpoint : Endpoint) :
    (ownChecks.served endpoint).map (HealthChecks.run state) = findings state endpoint := by
  unfold findings
  rw [← Gate.failure?_eq]
  cases endpoint <;> rfl

/-- Apart from excluded checks, an endpoint finds no failure exactly if the gate waits for nothing,
and on `readyz` shutdown was not triggered, each unless it is excluded. -/
theorem passes_iff (state : Aggregator) (endpoint : Endpoint) (excluded : List String) :
    (∀ result ∈ (findings state endpoint).filter (·.name ∉ excluded), result.failure = none) ↔
      ("autoregister-completion" ∈ excluded ∨ state.gate.pending = []) ∧
        (endpoint = .readyz → "shutdown" ∈ excluded ∨ state.shutdown.triggered = false) := by
  have only (result : CheckResult) :
      (result ∈ (findings state endpoint).filter (·.name ∉ excluded) → result.failure = none) ↔
        (result ∈ findings state endpoint → result.name ∈ excluded ∨ result.failure = none) := by
    rw [List.mem_filter, decide_eq_true_eq, and_imp, or_iff_not_imp_left]
  have gate : (if state.gate.pending = [] then none
      else some (PendingBackends.message ⟨state.gate.pending⟩)) = none ↔
        state.gate.pending = [] := by
    split <;> simp_all
  have shutdown : (if state.shutdown.triggered then some "process is shutting down" else none) =
      none ↔ state.shutdown.triggered = false := by
    cases state.shutdown.triggered <;> decide
  simp only [only]
  -- The first check always passes, and the last is there on `readyz` only.
  unfold findings
  rw [List.forall_mem_cons, List.forall_mem_cons, gate]
  refine ⟨fun passed => ⟨passed.2.1, fun readyz => ?_⟩, fun passed => ⟨.inr rfl, passed.1, ?_⟩⟩
  · have last := passed.2.2
    rw [if_pos readyz, List.forall_mem_singleton, shutdown] at last
    exact last
  · by_cases readyz : endpoint = .readyz
    · rw [if_pos readyz, List.forall_mem_singleton, shutdown]
      exact passed.2 readyz
    · rw [if_neg readyz]
      exact List.forall_mem_nil _

/-- What is asked of a state is answered with what it finds, apart from the excluded names. -/
theorem reports_showChecks (state : Aggregator) (endpoint : Endpoint)
    (parameters : List (String × String)) :
    (Http.showChecks ownChecks.install state endpoint (.ofParameters parameters)).Reports endpoint
      ((findings state endpoint).filter (·.name ∉ Http.HealthQuery.valuesOf "exclude" parameters))
      (Http.HealthQuery.IsBrief parameters) := by
  have brief := Http.HealthQuery.verbose_ofParameters parameters
  have results := ownChecks.install.results_evaluate state endpoint
    (Http.HealthQuery.ofParameters parameters).exclude
  rw [HealthChecks.served_install, run_served, Http.HealthQuery.exclude_ofParameters] at results
  rw [← results, ← brief, ← Http.HealthQuery.exclude_ofParameters]
  exact Http.reports_showReport _ _

/-- **Health endpoints tell the truth.** Whatever events and triggers came before, a request for an
endpoint succeeds exactly if the gate is excluded or waits for nothing, and on `readyz` also
shutdown is excluded or was never triggered. The body agrees with the status and with each check
that is not excluded, and the parameters may be reordered as long as those named `verbose` stay in
order. -/
theorem handle_health {assembly : Assembly} {paths : List String} {store : Store}
    {shutdown : Shutdown} {environment : Environment} {server : Server}
    (built : build assembly paths store shutdown environment = .ok server)
    (occurrences : List Aggregator.Occurrence) (outside : Environment) (tasks : List Task)
    (fresh : String) (endpoint : Endpoint) {request : Http.Request} (get : request.method = "GET")
    (target : request.target.path = "/" ++ endpoint.text) :
    let state := server.aggregator.afterAll occurrences
    let answer (request : Http.Request) := (server.handle ⟨state, outside, tasks⟩ fresh request).1
    let parameters := request.target.parameters
    let excluded := Http.HealthQuery.valuesOf "exclude" parameters
    let passes := ("autoregister-completion" ∈ excluded ∨ state.gate.pending = []) ∧
      (endpoint = .readyz → "shutdown" ∈ excluded ∨
        (shutdown.triggered = false ∧ .trigger ∉ occurrences))
    ((answer request).status = 200 ↔ passes) ∧
      (¬passes → (answer request).status = 500) ∧
      (answer request).Reports endpoint ((findings state endpoint).filter (·.name ∉ excluded))
        (Http.HealthQuery.IsBrief parameters) ∧
      ∀ other : Http.Request, other.method = "GET" → other.target.path = request.target.path →
        parameters.Perm other.target.parameters →
        Http.HealthQuery.valuesOf "verbose" parameters =
          Http.HealthQuery.valuesOf "verbose" other.target.parameters →
        (answer request).status = (answer other).status ∧
          (answer request).body = (answer other).body := by
  intro state answer parameters excluded passes
  obtain ⟨checks, aggregator⟩ := of_build_eq_ok built
  have own : (server.router ⟨state, outside, tasks⟩).checks = ownChecks.install := by
    rw [← checks]
    rfl
  have shown {request : Http.Request} (get : request.method = "GET")
      (target : request.target.path = "/" ++ endpoint.text) :=
    Http.Router.handle_checks state endpoint (server.router ⟨state, outside, tasks⟩) state.store
      fresh get target
  rw [own] at shown
  have reports : (answer request).Reports endpoint
      ((findings state endpoint).filter (·.name ∉ excluded))
      (Http.HealthQuery.IsBrief parameters) :=
    (reports_showChecks state endpoint parameters).congr (shown get target).1 (shown get target).2
  have untriggered : state.shutdown.triggered = false ↔
      shutdown.triggered = false ∧ .trigger ∉ occurrences := by
    rw [← Bool.not_eq_true, server.aggregator.triggered_afterAll, aggregator, not_or,
      shutdown_prepare, Bool.not_eq_true]
  have succeeds : (answer request).status = 200 ↔ passes := by
    rw [reports.succeeds, passes_iff, untriggered]
  refine ⟨succeeds, fun fails => ?_, reports, fun other getOther path reordered verbose => ?_⟩
  · exact reports.status.resolve_left fun passed => fails (succeeds.mp passed)
  · have same := Http.showChecks_perm ownChecks.install state endpoint reordered verbose
    have first := shown get target
    have second := shown getOther (path.trans target)
    rw [same] at first
    exact ⟨first.1.trans second.1.symm, first.2.trans second.2.symm⟩

/-- A request for an endpoint with a query. -/
def healthRequest (endpoint : Endpoint) (query : String) : Http.Request :=
  ⟨"GET", ⟨"/" ++ endpoint.text, some query, "/" ++ endpoint.text ++ "?" ++ query⟩, [], []⟩

/-- After a trigger, and with the gate excluded, `livez` still passes, and `readyz` does not. -/
theorem handle_health_triggered :
    ∃ server, build extendedAssembly ["/apis/g1/v1"] (.new extendedAssembly.storage) .new
        ⟨Store.upsert, Http.Network.offline, Table.empty⟩ = .ok server ∧
      let running : Running := ⟨server.aggregator.afterAll [.trigger],
        ⟨Store.upsert, Http.Network.offline, Table.empty⟩, []⟩
      (server.handle running "" (healthRequest .livez "exclude=autoregister-completion")).1.body =
          .ofText "ok" ∧
        (server.handle running ""
          (healthRequest .readyz "verbose&exclude=autoregister-completion")).1.status = 500 := by
  obtain ⟨checks, hooks, built⟩ := build_eq_ok extendedAssembly ["/apis/g1/v1"]
    (.new extendedAssembly.storage) .new Http.Network.offline Table.empty rfl
  have asked (endpoint : Endpoint) (query : String) :=
    handle_health built [.trigger] ⟨Store.upsert, Http.Network.offline, Table.empty⟩ [] ""
      endpoint (show (healthRequest endpoint query).method = "GET" from rfl) rfl
  refine ⟨_, built, ?_, ?_⟩
  · obtain ⟨succeeds, -, reports, -⟩ := asked .livez "exclude=autoregister-completion"
    refine reports.bare.mpr ⟨succeeds.mpr ⟨.inl ?_, nofun⟩, ?_⟩
    · decide +kernel
    · rw [← Http.HealthQuery.verbose_ofParameters]
      decide +kernel
  · obtain ⟨-, fails, -⟩ := asked .readyz "verbose&exclude=autoregister-completion"
    refine fails fun passes => ?_
    rcases passes.2 rfl with excluded | ⟨-, untriggered⟩
    · revert excluded
      decide +kernel
    · exact untriggered (List.mem_singleton_self _)

end Server

end Aggregation
