/-
**Which answer a request gets, and how it counts.**

A request comes to one of three things (`Destined`, `destined`): its identity is not registered, its
backend is `Unusable`, or there is an address and the request is handed to the transport, once and
with that address. The conditions exclude each other, so each is known by the answer: 404 and 503
are what the forwarder says before it hands anything over (`handed?_status?`), and what it says
afterwards is 502 or what the transport brings (`status?_of_handed`). Only what is handed over can
meet the network (`forward_congr`).

A counter of requests goes up by one for each answered request that has its labels, and by nothing
else (`requests_step`); over a run of requests, writes and changed addresses it counts how many
there were (`requests_run`).
-/

import Aggregation.Proofs.Http.Gateway

namespace Aggregation

open Metrics (RequestLabels)

namespace Url

theorem exists_below {base : Url} (rooted : base.canBeBase = true) (target : String) :
    ∃ url, base.below target = .ok url := by
  unfold canBeBase at rooted
  unfold below
  split
  · next rootless =>
    rw [rootless] at rooted
    cases rooted
  · exact ⟨_, rfl⟩

theorem not_below {base : Url} (rootless : base.canBeBase = false) (target : String) (url : Url) :
    base.below target ≠ .ok url := by
  unfold canBeBase at rootless
  unfold below
  split
  · nofun
  · next rooted =>
    rw [rooted] at rootless
    cases rootless

end Url

namespace Forwarder

variable (forwarder : Forwarder) (store : Store) (identity : Identity) (request : Http.Request)

/-! ### What there is to decide -/

/-- The present address of a backend: the delegate's if it is local, otherwise that of its service.
-/
def address? (descriptor : Descriptor) : Option Url :=
  match descriptor.service with
  | none => forwarder.delegate
  | some service => forwarder.names.get? service

theorem address?_of_local {descriptor : Descriptor} (served : descriptor.service = none) :
    forwarder.address? descriptor = forwarder.delegate := by
  rw [address?, served]

theorem address?_of_external {descriptor : Descriptor} {service : String}
    (external : descriptor.service = some service) :
    forwarder.address? descriptor = forwarder.names.get? service := by
  rw [address?, external]

/-- The base URL of a backend is its address. -/
theorem base_eq_ok_iff (descriptor : Descriptor) (url : Url) :
    forwarder.base descriptor = .ok url ↔ forwarder.address? descriptor = some url := by
  unfold base address? NameTable.resolve
  rcases descriptor.service with _ | service
  · rcases forwarder.delegate with _ | address <;> simp
  · dsimp only
    rcases forwarder.names.get? service with _ | address <;> simp

/-- A registered backend cannot be forwarded to. -/
inductive Unusable (registration : Registration) : Prop
  | notAvailable (unavailable : registration.available = false)
  | noDelegate (served : registration.descriptor.service = none)
    (missing : forwarder.delegate = none)
  | noMapping {service : String} (external : registration.descriptor.service = some service)
    (missing : forwarder.names.get? service = none)
  | rootless {base : Url} (addressed : forwarder.address? registration.descriptor = some base)
    (rootless : base.canBeBase = false)

/-- A registered backend can be forwarded to at an address. -/
structure Usable (registration : Registration) (base : Url) : Prop where
  available : registration.available = true
  addressed : forwarder.address? registration.descriptor = some base
  rooted : base.canBeBase = true

variable {forwarder} in
theorem Usable.not_unusable {registration : Registration} {base : Url}
    (usable : forwarder.Usable registration base) : ¬forwarder.Unusable registration := by
  obtain ⟨available, addressed, rooted⟩ := usable
  intro unusable
  cases unusable with
  | notAvailable unavailable => simp [available] at unavailable
  | noDelegate served missing => simp [address?_of_local _ served, missing] at addressed
  | noMapping external missing => simp [address?_of_external _ external, missing] at addressed
  | rootless other rootless =>
    rw [addressed] at other
    cases other
    simp [rooted] at rootless

/-- A backend without an address is local without a delegate, or external without a mapping. -/
theorem unusable_of_address? {registration : Registration}
    (missing : forwarder.address? registration.descriptor = none) :
    forwarder.Unusable registration := by
  rcases service : registration.descriptor.service with _ | service
  · rw [address?_of_local _ service] at missing
    exact .noDelegate service missing
  · rw [address?_of_external _ service] at missing
    exact .noMapping service missing

/-- Where a request goes, by what is registered and by the addresses. -/
inductive Destined (target : Http.Target) : Except ForwardError Url → Prop
  | missing (missing : store.get? identity = none) :
    Destined target (.error (.notRegistered identity))
  | unusable {registration : Registration} {obstacle : Obstacle}
    (registered : store.get? identity = some registration)
    (unusable : forwarder.Unusable registration) :
    Destined target (.error (.unavailable obstacle))
  | usable {registration : Registration} {base url : Url}
    (registered : store.get? identity = some registration)
    (usable : forwarder.Usable registration base)
    (below : base.below target.pathAndQuery = .ok url) : Destined target (.ok url)

/-- **A request goes where its backend and the addresses have it go.** -/
theorem destined (target : Http.Target) :
    forwarder.Destined store identity target (forwarder.destination store identity target) := by
  unfold destination
  split
  · next missing => exact .missing missing
  · next registration registered =>
    split
    · next available =>
      split
      · next obstacle unresolved =>
        refine .unusable registered (unusable_of_address? _ ?_)
        refine Option.eq_none_iff_forall_ne_some.mpr fun base addressed => ?_
        rw [(base_eq_ok_iff _ _ _).mpr addressed] at unresolved
        cases unresolved
      · next base resolved =>
        have addressed := (base_eq_ok_iff _ _ _).mp resolved
        by_cases rooted : base.canBeBase = true
        · obtain ⟨url, below⟩ := Url.exists_below rooted target.pathAndQuery
          rw [below]
          exact .usable registered ⟨available, addressed, rooted⟩ below
        · have rootless : base.canBeBase = false := Bool.eq_false_iff.mpr rooted
          split
          · next url below => exact absurd below (Url.not_below rootless _ url)
          · exact .unusable registered (.rootless addressed rootless)
    · next unavailable =>
      exact .unusable registered (.notAvailable (Bool.eq_false_iff.mpr unavailable))

/-! ### What is handed over -/

/-- What is handed to the transport for a request, if anything is. -/
def handed? : Option Http.Outgoing :=
  (forwarder.destination store identity request.target).toOption.map fun url =>
    ⟨request.method, url, outgoingHeaders request.headers, some request.body⟩

/-- The exchange that the transport makes of what it is handed. -/
def transport (outgoing : Http.Outgoing) : Http.Exchange :=
  Http.send forwarder.network outgoing.method outgoing.url outgoing.headers outgoing.body

/-- The status with which a request is answered after its exchange; while nothing comes back there
is none. -/
def statusAfter : Except Http.ExchangeError Http.Response → Option Nat
  | .ok response => some response.status
  | .error .timeout => none
  | .error _ => some 502

/-- The status with which a request is answered. -/
def status? : Option Nat :=
  (forwarder.forward store identity request).answer.map Http.Response.status

/-- What the forwarder refuses is answered at once, with the status of the error. -/
theorem status?_of_refused {error : ForwardError}
    (refused : forwarder.destination store identity request.target = .error error) :
    forwarder.status? store identity request = some error.status := by
  unfold status? forward
  rw [refused]
  rfl

/-- What is handed over is answered by what the transport makes of it. -/
theorem status?_of_handed {outgoing : Http.Outgoing}
    (handed : forwarder.handed? store identity request = some outgoing) :
    forwarder.status? store identity request =
      statusAfter (forwarder.transport outgoing).result := by
  obtain ⟨url, found, rfl⟩ := Option.map_eq_some_iff.mp handed
  have found := Http.eq_ok_of_toOption found
  show (forwarder.forward store identity request).answer.map _ =
    statusAfter (forwarder.exchange request url).result
  rw [answer_forward found]
  rcases (forwarder.exchange request url).result with error | response
  · cases error <;> rfl
  · rfl

/-- What is handed over is the message, for the present address of its backend. -/
theorem addressed_of_handed {outgoing : Http.Outgoing}
    (handed : forwarder.handed? store identity request = some outgoing) :
    ∃ registration base, store.get? identity = some registration ∧
      forwarder.address? registration.descriptor = some base ∧
      base.below request.target.pathAndQuery = .ok outgoing.url ∧
      outgoing.method = request.method ∧ outgoing.headers = outgoingHeaders request.headers ∧
      outgoing.body = some request.body := by
  obtain ⟨url, found, rfl⟩ := Option.map_eq_some_iff.mp handed
  have destined := forwarder.destined store identity request.target
  rw [Http.eq_ok_of_toOption found] at destined
  cases destined with
  | usable registered usable below =>
    exact ⟨_, _, registered, usable.addressed, below, rfl, rfl, rfl⟩

/-- What is contacted is what the transport contacts for what it is handed. -/
theorem contacted_eq_handed :
    (forwarder.forward store identity request).contacted =
      (forwarder.handed? store identity request).elim []
        fun outgoing => (forwarder.transport outgoing).contacted := by
  unfold handed?
  rcases found : forwarder.destination store identity request.target with error | url
  · unfold forward
    rw [found]
    rfl
  · exact contacted_forward found

/-- **The network is met by what is handed over, and by nothing else.** -/
theorem forward_congr {network : Http.Network}
    (same : ∀ outgoing ∈ forwarder.handed? store identity request,
      forwarder.transport outgoing = { forwarder with network }.transport outgoing) :
    { forwarder with network }.forward store identity request =
      forwarder.forward store identity request := by
  have elsewhere : { forwarder with network }.destination store identity request.target =
    forwarder.destination store identity request.target := rfl
  rcases found : forwarder.destination store identity request.target with error | url
  · unfold forward
    rw [elsewhere, found]
  · have handed : forwarder.handed? store identity request =
        some ⟨request.method, url, outgoingHeaders request.headers, some request.body⟩ := by
      rw [handed?, found]
      rfl
    have exchange : { forwarder with network }.exchange request url =
      forwarder.exchange request url := (same _ handed).symm
    rw [forward_of_destination (elsewhere.trans found), forward_of_destination found, exchange]

/-- **What a request is answered with before anything is handed over, and when something is.** -/
theorem handed?_status? :
    (forwarder.handed? store identity request = none ∧
        forwarder.status? store identity request = some 404 ↔ store.get? identity = none) ∧
      (forwarder.handed? store identity request = none ∧
        forwarder.status? store identity request = some 503 ↔
          ∃ registration, store.get? identity = some registration ∧
            forwarder.Unusable registration) ∧
      ((forwarder.handed? store identity request).isSome ↔
        ∃ registration, store.get? identity = some registration ∧
          ¬forwarder.Unusable registration) := by
  have destined := forwarder.destined store identity request.target
  have refused (error : ForwardError)
      (found : forwarder.destination store identity request.target = .error error) :=
    forwarder.status?_of_refused store identity request found
  unfold handed?
  generalize forwarder.destination store identity request.target = destination
    at destined refused ⊢
  cases destined with
  | missing missing => simp [missing, refused, Except.toOption, ForwardError.status]
  | unusable registered unusable =>
    simp [registered, unusable, refused, Except.toOption, ForwardError.status]
  | usable registered usable below => simp [registered, usable.not_unusable, Except.toOption]

end Forwarder

/-! ### How requests are counted -/

namespace Metrics

/-- How many requests have counted under some labels. -/
def requests (metrics : Metrics) (labels : RequestLabels) : Nat :=
  (metrics.get? (.proxyRequests labels.1 labels.2.1 labels.2.2)).getD 0

/-- A request counts under its labels, and under no others. -/
theorem requests_proxied (metrics : Metrics) (counted labels : RequestLabels) :
    (metrics.observe (.proxied counted.1 counted.2.1 counted.2.2)).requests labels =
      metrics.requests labels + [counted].count labels := by
  unfold requests observe count
  rw [Table.get?_insert, if_neg (by nofun), Table.get?_insert]
  by_cases same : labels = counted
  · simp [same]
  · have different : ¬Series.proxyRequests labels.1 labels.2.1 labels.2.2 =
        .proxyRequests counted.1 counted.2.1 counted.2.2 := by
      rw [Series.proxyRequests.injEq]
      rintro ⟨method, status, backend⟩
      exact same (Prod.ext method (Prod.ext status backend))
    rw [if_neg different, List.count_singleton, if_neg (by simpa using Ne.symm same),
      Nat.add_zero]

end Metrics

namespace Gateway

/-- A move adds one to the count of what it counts under. -/
theorem requests_step (gateway : Gateway) (move : Move) (labels : RequestLabels) :
    (gateway.step move).metrics.requests labels =
      gateway.metrics.requests labels + (gateway.counted move).count labels := by
  cases move with
  | write write => rfl
  | rename names => rfl
  | request network identity request =>
    have observed : (gateway.forwarded network identity request).observed = _ :=
      Forwarder.observed_forward _ gateway.store identity request
    show Metrics.requests (gateway.metrics.observeAll
      (gateway.forwarded network identity request).observed) labels = _
    rw [observed, counted, forwarded]
    rcases (Forwarder.forward ⟨gateway.names, gateway.delegate, network⟩ gateway.store identity
        request).answer with _ | response
    · rfl
    · exact gateway.metrics.requests_proxied
        (request.method, response.status, Forwarder.labelIn gateway.store identity) labels

/-- **Requests count as often as they are answered.** -/
theorem requests_run (gateway : Gateway) (moves : List Move) (labels : RequestLabels) :
    (gateway.run moves).metrics.requests labels =
      gateway.metrics.requests labels + (gateway.countedAll moves).count labels := by
  induction moves generalizing gateway with
  | nil => rfl
  | cons move rest ih =>
    show ((gateway.step move).run rest).metrics.requests labels = _
    rw [ih, requests_step, countedAll, List.count_append, Nat.add_assoc]

/--
**Every request is decided by what is registered and by the addresses, and counts once.** Around a
gateway in any state, and whatever its backends answer:

* the gateway says 404 without handing the request over if its identity is not registered, and 503
  if it is registered and cannot be used; it hands over all other requests;
* what it hands over is the message for the present address of the backend, and the answer is what
  the transport makes of it: 502 if the exchange fails, or else the status of the response;
* nothing is contacted but what the transport contacts for that, once, and backends that answer
  this in the same way have the request end in the same way;
* the answered request adds one to the counter of its method, its status, and the label of its
  identity, which is the shared one if that is not registered, and nothing to any other counter.

Over a run every counter grows by the number of the requests that were answered under its labels.
-/
theorem requests_decided (gateway : Gateway) (moves : List Move) :
    (∀ network identity request,
      let forwarder : Forwarder := ⟨gateway.names, gateway.delegate, network⟩
      let store := gateway.store
      let handed := forwarder.handed? store identity request
      let status := forwarder.status? store identity request
      (handed = none ∧ status = some 404 ↔ store.get? identity = none) ∧
      (handed = none ∧ status = some 503 ↔ ∃ registration,
        store.get? identity = some registration ∧ forwarder.Unusable registration) ∧
      (handed.isSome ↔ ∃ registration,
        store.get? identity = some registration ∧ ¬forwarder.Unusable registration) ∧
      (∀ outgoing, handed = some outgoing →
        (∃ registration base, store.get? identity = some registration ∧
          forwarder.address? registration.descriptor = some base ∧
          base.below request.target.pathAndQuery = .ok outgoing.url ∧
          outgoing.method = request.method ∧
          outgoing.headers = Forwarder.outgoingHeaders request.headers ∧
          outgoing.body = some request.body) ∧
        status = Forwarder.statusAfter (forwarder.transport outgoing).result) ∧
      (gateway.forwarded network identity request).contacted =
        handed.elim [] (fun outgoing => (forwarder.transport outgoing).contacted) ∧
      (∀ other, (∀ outgoing ∈ handed,
          forwarder.transport outgoing = { forwarder with network := other }.transport outgoing) →
        gateway.forwarded other identity request = gateway.forwarded network identity request) ∧
      ∀ labels, (gateway.step (.request network identity request)).metrics.requests labels =
        gateway.metrics.requests labels + (status.toList.map fun status =>
          (request.method, status, Forwarder.labelIn store identity)).count labels) ∧
    ∀ labels, (gateway.run moves).metrics.requests labels =
      gateway.metrics.requests labels + (gateway.countedAll moves).count labels := by
  refine ⟨fun network identity request => ?_, gateway.requests_run moves⟩
  intro forwarder store handed status
  obtain ⟨missing, unusable, usable⟩ := forwarder.handed?_status? store identity request
  refine ⟨missing, unusable, usable, fun outgoing same =>
    ⟨forwarder.addressed_of_handed store identity request same,
      forwarder.status?_of_handed store identity request same⟩,
    forwarder.contacted_eq_handed store identity request,
    fun other same => forwarder.forward_congr store identity request same, fun labels => ?_⟩
  have counted : gateway.counted (.request network identity request) =
      status.toList.map fun status =>
        (request.method, status, Forwarder.labelIn store identity) := by
    show (forwarder.forward store identity request).answer.toList.map _ =
      ((forwarder.forward store identity request).answer.map _).toList.map _
    rcases (forwarder.forward store identity request).answer with _ | response <;> rfl
  rw [requests_step, counted]

/-- A backend is read, and nobody is there for another one; it breaks off, and is found unavailable.
-/
theorem requests_decided_once :
    let gateway := start Forwarder.oneAvailable .empty (some Forwarder.deployed)
    let moves := [asking answering "g" "GET", asking answering "h" "GET",
      asking .offline "g" "GET", .write (.setAvailable ⟨"g", "v1"⟩ false none),
      asking answering "g" "GET"]
    ∀ labels ∈ [("GET", 200, "g/v1"), ("GET", 404, "unregistered"), ("GET", 502, "g/v1"),
        ("GET", 503, "g/v1")], (gateway.run moves).metrics.requests labels = 1 := by
  intro gateway moves labels listed
  rw [(requests_decided gateway moves).2 labels]
  revert labels
  decide +kernel

end Gateway

end Aggregation
