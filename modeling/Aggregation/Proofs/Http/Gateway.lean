/-
**How many series of requests there can be.**

A `Gateway` is a forwarder at work. While it answers requests others write to the store, replace its
addresses, and the backends answer as they like: a run is a list of `Move`s, in any order. Each
answered request counts under its method, the status of its answer, and the label of its identity
(`mem_requestLabels_run`). The label is one of those of the identities that were ever registered, or
the shared one, which has but one status (`countedAll_cases`); and a status is a number of three
digits. So the series are limited by what is registered, but for one factor:
`length_requestLabels` says that there are at least as many series as methods that were answered,
and at most so many times what the registered identities allow. Methods are for the client to
choose, and there is no end to them (`requestLabels_unlimited`).
-/

import Aggregation.Proofs.Http.Forward
import Aggregation.Proofs.Metrics
import Mathlib.Data.Finset.Prod
import Mathlib.Order.Interval.Finset.Nat

namespace Aggregation

open Metrics (RequestLabels)

/-- A forwarder with the store in which it looks backends up, and its metrics. -/
structure Gateway where
  store : Store
  names : NameTable
  delegate : Option Url
  metrics : Metrics

namespace Gateway

/-- Something that happens around a gateway: the store is written to, the addresses are replaced, or
a request is forwarded while the backends answer as the network says. -/
inductive Move where
  | write (write : Store.Write)
  | rename (names : NameTable)
  | request (network : Http.Network) (identity : Identity) (request : Http.Request)

/-- A gateway that has answered nothing yet. -/
def start (store : Store) (names : NameTable) (delegate : Option Url) : Gateway :=
  ⟨store, names, delegate, Table.empty⟩

/-- What becomes of a request. -/
def forwarded (gateway : Gateway) (network : Http.Network) (identity : Identity)
    (request : Http.Request) : Forwarded :=
  Forwarder.forward ⟨gateway.names, gateway.delegate, network⟩ gateway.store identity request

/-- The gateway after a move. -/
def step (gateway : Gateway) : Move → Gateway
  | .write write => { gateway with store := gateway.store.write write }
  | .rename names => { gateway with names := names }
  | .request network identity request =>
    { gateway with
      metrics := gateway.metrics.observeAll (gateway.forwarded network identity request).observed }

/-- The gateway after a run. -/
def run (gateway : Gateway) (moves : List Move) : Gateway := moves.foldl step gateway

/-- The labels under which a move counts, if it is a request that is answered. -/
def counted (gateway : Gateway) : Move → List RequestLabels
  | .request network identity request =>
    (gateway.forwarded network identity request).answer.toList.map fun response =>
      (request.method, response.status, Forwarder.labelIn gateway.store identity)
  | _ => []

/-- The labels under which the requests of a run count. -/
def countedAll : Gateway → List Move → List RequestLabels
  | _, [] => []
  | gateway, move :: rest => gateway.counted move ++ countedAll (gateway.step move) rest

/-- The methods of the requests of a run that are answered. -/
def answeredMethods (gateway : Gateway) (moves : List Move) : List String :=
  (gateway.countedAll moves).map Prod.fst

/-- The identities that are registered at some time of a run. -/
def everRegistered : Gateway → List Move → List Identity
  | gateway, [] => gateway.store.records.keys
  | gateway, move :: rest =>
    gateway.store.records.keys ++ everRegistered (gateway.step move) rest

/-! ### Series and counted requests -/

/-- A request adds the series under which it counts. -/
theorem mem_requestLabels_step (gateway : Gateway) (move : Move) (labels : RequestLabels) :
    labels ∈ (gateway.step move).metrics.requestLabels ↔
      labels ∈ gateway.metrics.requestLabels ∨ labels ∈ gateway.counted move := by
  cases move with
  | write write => exact (or_iff_left List.not_mem_nil).symm
  | rename names => exact (or_iff_left List.not_mem_nil).symm
  | request network identity request =>
    obtain ⟨method, status, backend⟩ := labels
    show _ ∈ Metrics.requestLabels (gateway.metrics.observeAll
      (gateway.forwarded network identity request).observed) ↔ _
    rw [Metrics.mem_requestLabels, Metrics.mem_requestLabels, Metrics.mem_keys_observeAll]
    refine or_congr_right ?_
    have observed : (gateway.forwarded network identity request).observed = _ :=
      Forwarder.observed_forward _ gateway.store identity request
    rw [observed, counted]
    simp only [List.mem_map, forwarded, exists_exists_and_eq_and, Observation.series,
      List.mem_cons, Series.proxyRequests.injEq, reduceCtorEq, List.not_mem_nil, or_false,
      Prod.mk.injEq]
    exact exists_congr fun response => and_congr_right fun _ => by
      constructor
      · rintro ⟨rfl, rfl, rfl⟩; exact ⟨rfl, rfl, rfl⟩
      · rintro ⟨rfl, rfl, rfl⟩; exact ⟨rfl, rfl, rfl⟩

/-- **The series of requests are those under which requests counted.** -/
theorem mem_requestLabels_run (gateway : Gateway) (moves : List Move) (labels : RequestLabels) :
    labels ∈ (gateway.run moves).metrics.requestLabels ↔
      labels ∈ gateway.metrics.requestLabels ∨ labels ∈ gateway.countedAll moves := by
  induction moves generalizing gateway with
  | nil => exact (or_iff_left List.not_mem_nil).symm
  | cons move rest ih =>
    show labels ∈ ((gateway.step move).run rest).metrics.requestLabels ↔ _
    rw [ih, mem_requestLabels_step, countedAll, List.mem_append, or_assoc]

theorem mem_requestLabels_start (store : Store) (names : NameTable) (delegate : Option Url)
    (moves : List Move) (labels : RequestLabels) :
    labels ∈ ((start store names delegate).run moves).metrics.requestLabels ↔
      labels ∈ (start store names delegate).countedAll moves :=
  (mem_requestLabels_run _ moves labels).trans (or_iff_right List.not_mem_nil)

/-! ### What requests count under -/

/-- The backends answer with statuses of three digits, as all statuses are. -/
def Move.IsProper : Move → Prop
  | .request network _ _ => ∀ outgoing reply, network outgoing = .answer reply →
    100 ≤ reply.status ∧ reply.status < 1000
  | _ => True

/-- What a request counts under: the shared label and its one status, or the label of an identity
that is registered. -/
theorem counted_cases {gateway : Gateway} {move : Move} (proper : move.IsProper)
    {labels : RequestLabels} (member : labels ∈ gateway.counted move) :
    labels.2 = (404, Forwarder.unregisteredLabel) ∨
      ∃ identity ∈ gateway.store.records.keys, labels.2.2 = identity.display ∧
        labels.2.1 ∈ Finset.Ico 100 1000 := by
  cases move with
  | write | rename => cases member
  | request network identity request =>
    obtain ⟨answer, given, rfl⟩ := List.mem_map.mp member
    rw [Option.mem_toList] at given
    rcases known : gateway.store.get? identity with _ | registration
    · left
      rw [forwarded, Forwarder.answer_of_missing _ _ _ _ known] at given
      cases given
      show (404, Forwarder.labelIn gateway.store identity) = _
      rw [Forwarder.labelIn, known]
      rfl
    · right
      have registered : (gateway.store.get? identity).isSome = true := by rw [known]; rfl
      refine ⟨identity, (Table.contains_iff _ _).mp registered, if_pos registered, ?_⟩
      exact Finset.mem_Ico.mpr (Forwarder.status_answer
        ⟨gateway.names, gateway.delegate, network⟩ gateway.store identity request proper given)

theorem keys_subset_everRegistered (gateway : Gateway) (moves : List Move) :
    gateway.store.records.keys ⊆ gateway.everRegistered moves := by
  cases moves with
  | nil => exact List.Subset.refl _
  | cons move rest => exact List.subset_append_left _ _

/-- **What the requests of a run count under.** -/
theorem countedAll_cases {gateway : Gateway} {moves : List Move}
    (proper : ∀ move ∈ moves, move.IsProper) {labels : RequestLabels}
    (member : labels ∈ gateway.countedAll moves) :
    labels.2 = (404, Forwarder.unregisteredLabel) ∨
      ∃ identity ∈ gateway.everRegistered moves, labels.2.2 = identity.display ∧
        labels.2.1 ∈ Finset.Ico 100 1000 := by
  induction moves generalizing gateway with
  | nil => cases member
  | cons move rest ih =>
    rcases List.mem_append.mp member with now | later
    · rcases counted_cases (proper move List.mem_cons_self) now with shared | ⟨identity, known, own⟩
      · exact .inl shared
      · exact .inr ⟨identity, keys_subset_everRegistered gateway (move :: rest) known, own⟩
    · have others : ∀ move ∈ rest, move.IsProper :=
        fun move also => proper move (List.mem_cons_of_mem _ also)
      rcases ih others later with shared | ⟨identity, known, own⟩
      · exact .inl shared
      · exact .inr ⟨identity, List.mem_append_right _ known, own⟩

/-! ### How many series there are -/

/-- What a request with a given method can count under, as far as its client does not choose. -/
def rest (identities : Finset Identity) : Finset (Nat × String) :=
  insert (404, Forwarder.unregisteredLabel)
    (Finset.Ico 100 1000 ×ˢ identities.image Identity.display)

theorem mem_rest (identities : Finset Identity) (counted : Nat × String) :
    counted ∈ rest identities ↔ counted = (404, Forwarder.unregisteredLabel) ∨
      counted.1 ∈ Finset.Ico 100 1000 ∧ ∃ identity ∈ identities, identity.display = counted.2 := by
  rw [rest, Finset.mem_insert, Finset.mem_product, Finset.mem_image]

theorem card_rest_le (identities : Finset Identity) :
    (rest identities).card ≤ 900 * identities.card + 1 := by
  refine (Finset.card_insert_le _ _).trans (Nat.succ_le_succ ?_)
  rw [Finset.card_product, Nat.card_Ico]
  exact Nat.mul_le_mul_left 900 Finset.card_image_le

theorem length_requestLabels_eq_card (metrics : Metrics) :
    metrics.requestLabels.length = metrics.requestLabels.toFinset.card :=
  (List.toFinset_card_of_nodup metrics.nodup_requestLabels).symm

/-- Every method that was answered has a series. -/
theorem card_answeredMethods_le (gateway : Gateway) (moves : List Move) :
    (gateway.answeredMethods moves).toFinset.card ≤
      (gateway.run moves).metrics.requestLabels.length := by
  have covered : (gateway.answeredMethods moves).toFinset ⊆
      (gateway.run moves).metrics.requestLabels.toFinset.image Prod.fst := by
    intro method answered
    obtain ⟨labels, member, rfl⟩ := List.mem_map.mp (List.mem_toFinset.mp answered)
    refine Finset.mem_image_of_mem _ (List.mem_toFinset.mpr ?_)
    exact (mem_requestLabels_run gateway moves labels).mpr (.inr member)
  rw [length_requestLabels_eq_card]
  exact (Finset.card_le_card covered).trans Finset.card_image_le

/-- **The methods limit the series, and nothing else does that clients choose.** Whatever happens
around a gateway that has answered nothing yet, as long as the backends answer with statuses: there
is a series of requests for every method that was answered, and for each of these methods there are
at most 900 series for each identity that was ever registered, and one more. -/
theorem length_requestLabels (store : Store) (names : NameTable) (delegate : Option Url)
    (moves : List Move) (proper : ∀ move ∈ moves, move.IsProper) :
    let gateway := start store names delegate
    let series := (gateway.run moves).metrics.requestLabels
    let methods := (gateway.answeredMethods moves).toFinset
    let registered := (gateway.everRegistered moves).toFinset
    series.Nodup ∧ methods.card ≤ series.length ∧
      series.length ≤ methods.card * (900 * registered.card + 1) := by
  intro gateway series methods registered
  refine ⟨Metrics.nodup_requestLabels _, card_answeredMethods_le gateway moves, ?_⟩
  have within : series.toFinset ⊆ methods ×ˢ rest registered := by
    intro labels listed
    have member : labels ∈ gateway.countedAll moves :=
      (mem_requestLabels_start store names delegate moves labels).mp (List.mem_toFinset.mp listed)
    refine Finset.mem_product.mpr ⟨List.mem_toFinset.mpr (List.mem_map_of_mem member), ?_⟩
    rw [mem_rest]
    rcases countedAll_cases proper member with shared | ⟨identity, ever, own, status⟩
    · exact .inl shared
    · exact .inr ⟨status, identity, List.mem_toFinset.mpr ever, own.symm⟩
  calc series.length = series.toFinset.card := length_requestLabels_eq_card _
    _ ≤ (methods ×ˢ rest registered).card := Finset.card_le_card within
    _ = methods.card * (rest registered).card := Finset.card_product _ _
    _ ≤ methods.card * (900 * registered.card + 1) :=
      Nat.mul_le_mul_left _ (card_rest_le registered)

/-- Every server answers. -/
def answering : Http.Network := fun _ => .answer ⟨200, [], .ofText "ok"⟩

/-- A request with a method for a group. -/
def asking (network : Http.Network) (group method : String) : Move :=
  .request network ⟨group, "v1"⟩ { Forwarder.reading with method := method }

/-- A backend is read, posted to and removed, and now and then somebody asks for one that there
never was, at last with a method that there never was. -/
def visited : List Move := [
  asking answering "g" "GET", asking answering "h" "GET", asking answering "g" "POST",
  asking answering "h" "POST", .write (.remove ⟨"g", "v1"⟩), asking answering "g" "GET",
  asking answering "h" "PURGE"]

/-- Three methods, one of them invented, and one backend. -/
theorem length_requestLabels_visited :
    let gateway := start Forwarder.oneAvailable .empty (some Forwarder.deployed)
    let series := (gateway.run visited).metrics.requestLabels
    (gateway.everRegistered visited).toFinset = {⟨"g", "v1"⟩} ∧ series.Nodup ∧
      3 ≤ series.length ∧ series.length ≤ 3 * (900 * 1 + 1) := by
  intro gateway series
  have asked (group method : String) : (asking answering group method).IsProper := by
    rintro outgoing reply ⟨⟩
    exact ⟨by decide, by decide⟩
  have proper : ∀ move ∈ visited, move.IsProper := by
    simp only [visited, List.forall_mem_cons]
    exact ⟨asked _ _, asked _ _, asked _ _, asked _ _, trivial, asked _ _, asked _ _,
      List.forall_mem_nil _⟩
  have ever : (gateway.everRegistered visited).toFinset = {⟨"g", "v1"⟩} := by decide +kernel
  have methods : (gateway.answeredMethods visited).toFinset.card = 3 := by decide +kernel
  obtain ⟨distinct, least, most⟩ := length_requestLabels Forwarder.oneAvailable .empty
    (some Forwarder.deployed) visited proper
  refine ⟨ever, distinct, (Nat.le_of_eq methods.symm).trans least,
    most.trans (Nat.le_of_eq ?_)⟩
  show (gateway.answeredMethods visited).toFinset.card *
    (900 * (gateway.everRegistered visited).toFinset.card + 1) = _
  rw [methods, ever]
  rfl

/-! ### There is no end to methods -/

/-- The method of a request is one that a client can send. -/
def Move.IsSent : Move → Prop
  | .request _ _ sent => Http.Request.isToken sent.method = true
  | _ => True

/-- A method for every number. -/
def invented (count : Nat) : String := String.ofList (List.replicate (count + 1) 'A')

theorem isToken_invented (count : Nat) : Http.Request.isToken (invented count) = true := by
  have letter : Http.Request.inToken 'A' = true := by decide
  simp [Http.Request.isToken, invented, letter]

theorem invented_injective : Function.Injective invented := by
  intro first second same
  have chars := congrArg (fun text => text.toList.length) same
  simpa [invented] using chars

section Missing

variable {gateway : Gateway} {group : String}

/-- Requests for what is not registered all count, each under its method. -/
theorem countedAll_missing (missing : gateway.store.get? ⟨group, "v1"⟩ = none)
    (network : Http.Network) (methods : List String) :
    gateway.countedAll (methods.map (asking network group)) =
      methods.map fun method => (method, 404, Forwarder.unregisteredLabel) := by
  induction methods generalizing gateway with
  | nil => rfl
  | cons method rest ih =>
    have later : (gateway.step (asking network group method)).countedAll
        (rest.map (asking network group)) =
          rest.map fun method => (method, 404, Forwarder.unregisteredLabel) := ih missing
    have counted : gateway.counted (asking network group method) =
        [(method, 404, Forwarder.unregisteredLabel)] := by
      rw [asking, Gateway.counted, forwarded, Forwarder.answer_of_missing _ _ _ _ missing,
        Forwarder.labelIn, missing]
      rfl
    rw [List.map_cons, List.map_cons, countedAll, counted, later]
    rfl

/-- Requests register nothing. -/
theorem everRegistered_asking (nothing : gateway.store.records.keys = [])
    (network : Http.Network) (methods : List String) :
    gateway.everRegistered (methods.map (asking network group)) = [] := by
  induction methods generalizing gateway with
  | nil => exact nothing
  | cons method rest ih =>
    rw [List.map_cons, everRegistered, nothing, List.nil_append]
    exact ih nothing

end Missing

/-- **What is registered does not limit the series of requests.** Even while nothing is registered
there is no bound on them: a client only has to invent methods. -/
theorem requestLabels_unlimited :
    ¬∀ registered : Finset Identity, ∃ bound, ∀ store names delegate moves,
      (∀ move ∈ moves, move.IsProper) → (∀ move ∈ moves, move.IsSent) →
      ((start store names delegate).everRegistered moves).toFinset = registered →
        ((start store names delegate).run moves).metrics.requestLabels.length ≤ bound := by
  intro limited
  obtain ⟨bound, within⟩ := limited ∅
  let store := Store.new (.forAggregator "/registry" .json)
  let methods := (List.range (bound + 1)).map invented
  let moves := methods.map (asking .offline "g")
  have proper : ∀ move ∈ moves, move.IsProper := by
    intro move asked
    obtain ⟨method, -, rfl⟩ := List.mem_map.mp asked
    rintro outgoing reply ⟨⟩
  have tokens : ∀ move ∈ moves, move.IsSent := by
    intro move asked
    obtain ⟨method, listed, rfl⟩ := List.mem_map.mp asked
    obtain ⟨count, -, rfl⟩ := List.mem_map.mp listed
    exact isToken_invented count
  have ever : ((start store .empty none).everRegistered moves).toFinset = ∅ := by
    have nothing : (start store .empty none).store.records.keys = [] := rfl
    rw [everRegistered_asking nothing, List.toFinset_nil]
  have most := within store .empty none moves proper tokens ever
  -- All of the methods are answered, and there is one more of them than the bound allows.
  have answered : (start store .empty none).answeredMethods moves = methods := by
    have missing : (start store .empty none).store.get? ⟨"g", "v1"⟩ = none := rfl
    rw [answeredMethods, countedAll_missing missing, List.map_map]
    exact List.map_id methods
  have least := card_answeredMethods_le (start store .empty none) moves
  have distinct : methods.Nodup := List.nodup_range.map invented_injective
  rw [answered, List.toFinset_card_of_nodup distinct, List.length_map, List.length_range] at least
  exact Nat.not_succ_le_self bound (least.trans most)

end Gateway

end Aggregation
