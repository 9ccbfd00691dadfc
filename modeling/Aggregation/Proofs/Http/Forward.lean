/-
**What a forwarder relays, and whom it contacts.**

A request for a backend that is registered, available and has an address is sent once, to the
address with the request's target below it, and what comes back is relayed: its status, its body and
its headers except the hop-by-hop ones. That is so as long as the client of the exchange takes the
answer for one. The client, however, follows redirects. An answer that leads on is never relayed:
what is contacted next is what its location names, if the scheme of that is spoken, and the client
is given what the last of at most eleven requests brings. `Becomes` tells these cases apart by what
the backend answers, and `forward_relays` shows that a request ends as one of them;
`forward_diverted` is a run in which another server is contacted and heard.

`observed_forward` says how a request counts: once if it is answered and not at all if it is not.
-/

import Aggregation.Http.Forward
import Aggregation.Proofs.Http.Exchange
import Aggregation.Proofs.Store.Write

namespace Aggregation

namespace Http

variable (method : String) (url : Url) (headers : Headers) (body : Option Bytes)

theorem method_prepare : (prepare method url headers body).method = method := by
  unfold prepare
  rcases credentials? url with _ | ⟨username, password⟩ <;> rfl

theorem body_prepare : (prepare method url headers body).body = body := by
  unfold prepare
  rcases credentials? url with _ | ⟨username, password⟩ <;> rfl

/-- A request goes to its URL, without the credentials that are moved to a header. -/
theorem url_prepare : (prepare method url headers body).url =
    if (credentials? url).isSome then url.withoutCredentials else url := by
  unfold prepare
  rcases credentials? url with _ | ⟨username, password⟩ <;> rfl

/-- What cannot be sent contacts nothing. -/
theorem send_of_unsendable {network : Network}
    (unsendable : ¬(prepare method url headers body).IsSendable) :
    send network method url headers body =
      ⟨[], .error (.notSendable (prepare method url headers body).url)⟩ := by
  refine if_neg fun both => unsendable ?_
  obtain ⟨spoken, target⟩ := (Bool.and_eq_true _ _).mp both
  exact ⟨spoken, target⟩

theorem send_of_sendable {network : Network}
    (sendable : (prepare method url headers body).IsSendable) :
    send network method url headers body =
      sendOver network redirectLimit (prepare method url headers body) :=
  if_pos ((Bool.and_eq_true _ _).mpr ⟨sendable.spoken, sendable.target⟩)

end Http

namespace Forwarder

open Http (LeadsTo redirectLimit)

variable (forwarder : Forwarder) (store : Store) (identity : Identity) (request : Http.Request)

/-- The request as a backend sees it. -/
def sent (request : Http.Request) (url : Url) : Http.Outgoing :=
  Http.prepare request.method url (outgoingHeaders request.headers) (some request.body)

/-- What the client is told of an exchange that failed. -/
def failure : Http.Response := .text 502 "upstream request failed"

/-- What the client is told when an exchange has ended. While nothing comes back there is no answer.
-/
def told : Except Http.ExchangeError Http.Response → Option Http.Response
  | .ok response => some (relayed response)
  | .error .timeout => none
  | .error _ => some failure

theorem told_error (error : Http.ExchangeError) :
    told (.error error) = none ∨ told (.error error) = some failure := by
  cases error with
  | timeout => exact .inl rfl
  | notSendable url | failed url | tooManyRedirects url | notFollowable url => exact .inr rfl

/-- The exchange in which a request is forwarded to a URL. -/
def exchange (url : Url) : Http.Exchange :=
  Http.send forwarder.network request.method url (outgoingHeaders request.headers)
    (some request.body)

/-! ### Where a request goes -/

section Destination

variable {forwarder store identity}

/-- A backend that is registered, available and has an address can be forwarded to. -/
theorem destination_eq_ok {registration : Registration} {base url : Url} {target : Http.Target}
    (registered : store.get? identity = some registration)
    (available : registration.available = true)
    (resolved : forwarder.base registration.descriptor = .ok base)
    (addressed : base.below target.pathAndQuery = .ok url) :
    forwarder.destination store identity target = .ok url := by
  unfold destination
  rw [registered]
  simp only [available, if_true, resolved, addressed]

theorem get?_of_destination {target : Http.Target} {url : Url}
    (found : forwarder.destination store identity target = .ok url) :
    (store.get? identity).isSome = true := by
  unfold destination at found
  split at found
  · cases found
  · next known => rw [known]; rfl

variable {request} {url : Url}

/-- A request that has a URL to go to ends as its exchange does. -/
theorem forward_of_destination
    (found : forwarder.destination store identity request.target = .ok url) :
    forwarder.forward store identity request =
      match (forwarder.exchange request url).result with
      | .ok response =>
        conclude identity request.method (forwarder.exchange request url).contacted (.ok response)
      | .error .timeout => ⟨none, (forwarder.exchange request url).contacted, []⟩
      | .error error =>
        conclude identity request.method (forwarder.exchange request url).contacted
          (.error (.failed error)) := by
  unfold forward
  rw [found]
  rfl

/-- What is contacted is what the exchange contacts. -/
theorem contacted_forward
    (found : forwarder.destination store identity request.target = .ok url) :
    (forwarder.forward store identity request).contacted =
      (forwarder.exchange request url).contacted := by
  rw [forward_of_destination found]
  rcases (forwarder.exchange request url).result with error | response
  · cases error <;> rfl
  · rfl

/-- A success is relayed; a failure is answered for, unless it is that nothing came back. -/
theorem answer_forward
    (found : forwarder.destination store identity request.target = .ok url) :
    (forwarder.forward store identity request).answer =
      told (forwarder.exchange request url).result := by
  rw [forward_of_destination found]
  rcases (forwarder.exchange request url).result with error | response
  · cases error <;> rfl
  · rfl

/-- What is contacted and told once it is known what the exchange comes to. -/
theorem forward_of_exchange {exchanged : Http.Exchange}
    (found : forwarder.destination store identity request.target = .ok url)
    (whole : forwarder.exchange request url = exchanged) :
    (forwarder.forward store identity request).contacted = exchanged.contacted ∧
      (forwarder.forward store identity request).answer = told exchanged.result := by
  rw [← whole]
  exact ⟨contacted_forward found, answer_forward found⟩

end Destination

/-! ### What is relayed -/

/-- An answer is relayed with its status, its body, and its headers other than hop-by-hop ones. -/
theorem relayed_eq (response : Http.Response) :
    relayed response = ⟨response.status,
      response.headers.filter (fun header => header.1 ∉ Http.Headers.hopByHop), response.body⟩ := by
  unfold relayed
  rw [Http.endToEnd_eq]

/-- An answer that leads to no URL is not followed. -/
theorem next?_sent {url : Url} {response : Http.Response}
    (stays : ∀ next, ¬LeadsTo (sent request url) response next) :
    (sent request url).next? response = none := by
  rcases found : (sent request url).next? response with _ | next
  · rfl
  · exact absurd ((Http.next?_streamed (Http.body_prepare _ _ _ _) response next.url).mp
      ⟨next, found, rfl⟩) (stays next.url)

/-- An answer that leads on to a URL has it contacted next if its scheme is spoken. -/
theorem exchange_of_leadsTo {url next : Url} {response : Http.Response}
    (sendable : (sent request url).IsSendable)
    (answered : forwarder.network (sent request url) = .answer response)
    (leads : LeadsTo (sent request url) response next) (spoken : Http.isSpoken next = true) :
    ∃ others, (forwarder.exchange request url).contacted =
      (sent request url).url :: next :: others := by
  obtain ⟨following, found, rfl⟩ :=
    (Http.next?_streamed (Http.body_prepare _ _ _ _) response next).mpr leads
  obtain ⟨left, limit⟩ : ∃ left, redirectLimit = left + 1 := ⟨9, rfl⟩
  obtain ⟨others, shape⟩ := Http.head_contacted forwarder.network left following
  refine ⟨others, ?_⟩
  rw [exchange, Http.send_of_sendable _ _ _ _ sendable]
  show (Http.sendOver forwarder.network redirectLimit (sent request url)).contacted = _
  rw [limit, Http.sendOver_of_leads answered found spoken, shape]

/-- An answer that leads on to a URL of another scheme fails the exchange. -/
theorem exchange_of_unspoken {url next : Url} {response : Http.Response}
    (sendable : (sent request url).IsSendable)
    (answered : forwarder.network (sent request url) = .answer response)
    (leads : LeadsTo (sent request url) response next) (unspoken : Http.isSpoken next = false) :
    forwarder.exchange request url =
      ⟨[(sent request url).url], .error (.notFollowable next)⟩ := by
  obtain ⟨following, found, rfl⟩ :=
    (Http.next?_streamed (Http.body_prepare _ _ _ _) response next).mpr leads
  exact (Http.send_of_sendable _ _ _ _ sendable).trans
    (Http.sendOver_of_unspoken answered found unspoken 9)

/-- The client is told of a failure, or given the answer to the last request of the exchange. -/
theorem answer_of_exchange {url : Url} {answer : Http.Response}
    (found : forwarder.destination store identity request.target = .ok url)
    (given : (forwarder.forward store identity request).answer = some answer) :
    answer = failure ∨
      ∃ last reply, (forwarder.forward store identity request).contacted.getLast? =
          some last.url ∧
        forwarder.network last = .answer reply ∧ answer = relayed reply := by
  rw [contacted_forward found]
  rw [answer_forward found] at given
  rcases ended : (forwarder.exchange request url).result with error | response
  · rw [ended] at given
    rcases told_error error with silent | failed
    · rw [silent] at given
      cases given
    · rw [failed] at given
      cases given
      exact .inl rfl
  · rw [ended] at given
    cases given
    by_cases sendable : (sent request url).IsSendable
    · rw [exchange, Http.send_of_sendable _ _ _ _ sendable] at ended ⊢
      obtain ⟨last, contacted, answered⟩ := Http.result_sendOver ended
      exact .inr ⟨last, response, contacted, answered, rfl⟩
    · rw [exchange, Http.send_of_unsendable _ _ _ _ sendable] at ended
      cases ended

/-- What becomes of a request that goes to a backend as `outgoing`. -/
inductive Becomes (network : Http.Network) (outgoing : Http.Outgoing) (forwarded : Forwarded) :
    Prop
  /-- The backend's URL cannot be requested: nothing is contacted. -/
  | refused (unsendable : ¬outgoing.IsSendable) (contacted : forwarded.contacted = [])
    (answer : forwarded.answer = some failure)
  /-- The backend is contacted and does not answer. -/
  | unanswered (sendable : outgoing.IsSendable)
    (silent : ∀ response, network outgoing ≠ .answer response)
    (contacted : forwarded.contacted = [outgoing.url])
    (answer : forwarded.answer = none ∨ forwarded.answer = some failure)
  /-- The backend is contacted, and its answer is relayed. -/
  | relayed (sendable : outgoing.IsSendable) {response : Http.Response}
    (answered : network outgoing = .answer response)
    (stays : ∀ next, ¬LeadsTo outgoing response next)
    (contacted : forwarded.contacted = [outgoing.url])
    (answer : forwarded.answer = some ⟨response.status,
      response.headers.filter (fun header => header.1 ∉ Http.Headers.hopByHop), response.body⟩)
  /-- The backend is contacted, and its answer leads to a URL whose scheme is not spoken: nothing
  else is contacted, and the answer is lost. -/
  | stranded (sendable : outgoing.IsSendable) {response : Http.Response} {next : Url}
    (answered : network outgoing = .answer response) (leads : LeadsTo outgoing response next)
    (unspoken : Http.isSpoken next = false) (contacted : forwarded.contacted = [outgoing.url])
    (answer : forwarded.answer = some failure)
  /-- The backend is contacted, and where its answer leads to: what is relayed, if anything, is the
  answer to the last request. -/
  | diverted (sendable : outgoing.IsSendable) {response : Http.Response} {next : Url}
    {others : List Url} (answered : network outgoing = .answer response)
    (leads : LeadsTo outgoing response next) (spoken : Http.isSpoken next = true)
    (contacted : forwarded.contacted = outgoing.url :: next :: others)
    (limited : forwarded.contacted.length ≤ redirectLimit + 1)
    (answer : ∀ answer, forwarded.answer = some answer → answer = failure ∨
      ∃ last reply, forwarded.contacted.getLast? = some last.url ∧
        network last = .answer reply ∧ answer = Forwarder.relayed reply)

/-- A request that is not answered ends with the failure, or with nothing. -/
theorem becomes_of_unanswered {url : Url}
    (found : forwarder.destination store identity request.target = .ok url)
    (sendable : (sent request url).IsSendable)
    (silent : ∀ response, forwarder.network (sent request url) ≠ .answer response) :
    Becomes forwarder.network (sent request url) (forwarder.forward store identity request) := by
  obtain ⟨error, same⟩ := Http.sendOver_of_unanswered silent redirectLimit
  have whole : forwarder.exchange request url = ⟨[(sent request url).url], .error error⟩ :=
    (Http.send_of_sendable _ _ _ _ sendable).trans same
  obtain ⟨contacted, answer⟩ := forward_of_exchange found whole
  refine .unanswered sendable silent contacted ?_
  rw [answer]
  exact told_error error

/-- An answer that does not lead on is relayed. -/
theorem becomes_of_stays {url : Url} {response : Http.Response}
    (found : forwarder.destination store identity request.target = .ok url)
    (sendable : (sent request url).IsSendable)
    (answered : forwarder.network (sent request url) = .answer response)
    (stays : ∀ next, ¬LeadsTo (sent request url) response next) :
    Becomes forwarder.network (sent request url) (forwarder.forward store identity request) := by
  have same := Http.sendOver_of_stays answered (next?_sent request stays) redirectLimit
  have whole : forwarder.exchange request url = ⟨[(sent request url).url], .ok response⟩ :=
    (Http.send_of_sendable _ _ _ _ sendable).trans same
  obtain ⟨contacted, answer⟩ := forward_of_exchange found whole
  exact .relayed sendable answered stays contacted (answer.trans (congrArg some (relayed_eq _)))

/-- An answer that leads on is not relayed. -/
theorem becomes_of_leadsTo {url next : Url} {response : Http.Response}
    (found : forwarder.destination store identity request.target = .ok url)
    (sendable : (sent request url).IsSendable)
    (answered : forwarder.network (sent request url) = .answer response)
    (leads : LeadsTo (sent request url) response next) :
    Becomes forwarder.network (sent request url) (forwarder.forward store identity request) := by
  cases spoken : Http.isSpoken next with
  | true =>
    obtain ⟨others, contacted⟩ :=
      exchange_of_leadsTo forwarder request sendable answered leads spoken
    refine .diverted sendable answered leads spoken ((contacted_forward found).trans contacted) ?_
      fun answer given => answer_of_exchange _ _ _ _ found given
    rw [contacted_forward found, exchange, Http.send_of_sendable _ _ _ _ sendable]
    exact Http.length_contacted_le _ _ _
  | false =>
    obtain ⟨contacted, answer⟩ := forward_of_exchange found
      (exchange_of_unspoken forwarder request sendable answered leads spoken)
    exact .stranded sendable answered leads spoken contacted answer

/-- **A backend's answer is relayed unless it leads on.** For a backend that is registered,
available and has an address, a request is sent to that address with its target below it, less
credentials. If nothing comes back, or an answer that does not lead on, then nothing else is
contacted, and such an answer is relayed. An answer that leads on is lost: if the scheme of the URL
that it leads to is spoken then that is contacted, up to ten times in all, and the client is given
what the last one answers, and otherwise the client is told of a failure. -/
theorem forward_relays {registration : Registration} {base url : Url}
    (registered : store.get? identity = some registration)
    (available : registration.available = true)
    (resolved : forwarder.base registration.descriptor = .ok base)
    (addressed : base.below request.target.pathAndQuery = .ok url) :
    (sent request url).url =
        (if (Http.credentials? url).isSome then url.withoutCredentials else url) ∧
      Becomes forwarder.network (sent request url)
        (forwarder.forward store identity request) := by
  have found : forwarder.destination store identity request.target = .ok url :=
    destination_eq_ok registered available resolved addressed
  refine ⟨Http.url_prepare _ _ _ _, ?_⟩
  by_cases sendable : (sent request url).IsSendable
  · by_cases answered : ∃ response, forwarder.network (sent request url) = .answer response
    · obtain ⟨response, answered⟩ := answered
      by_cases leads : ∃ next, LeadsTo (sent request url) response next
      · obtain ⟨next, leads⟩ := leads
        exact becomes_of_leadsTo _ _ _ _ found sendable answered leads
      · exact becomes_of_stays _ _ _ _ found sendable answered
          fun next leadsTo => leads ⟨next, leadsTo⟩
    · exact becomes_of_unanswered _ _ _ _ found sendable
        fun response same => answered ⟨response, same⟩
  · obtain ⟨contacted, answer⟩ :=
      forward_of_exchange found (Http.send_of_unsendable _ _ _ _ sendable)
    exact .refused sendable contacted answer

/-- The address of a delegate. -/
def deployed : Url :=
  ⟨"http", "", "", some (.ipv6 ⟨[0, 0, 0, 0, 0, 0, 0, 1]⟩), some 6443, .segments [""], none, none⟩

/-- The URL of a request below it. -/
def requested : Url := { deployed with path := .segments ["apis", "g", "v1", "things"] }

/-- Another server. -/
def elsewhere : Url :=
  ⟨"http", "", "", some (.ipv6 ⟨[0, 0, 0, 0, 0, 0, 0, 2]⟩), none, .segments ["x"], none, none⟩

/-- An answer that says where to look. -/
def referral (status : Nat) : Http.Response :=
  ⟨status, [("connection", .ofText "close"), ("location", .ofText "http://[::2]/x")],
    .ofText "moved"⟩

/-- Every server but one refers to that one. -/
def moving (status : Nat) : Http.Network := fun outgoing =>
  if outgoing.url = elsewhere then .answer ⟨200, [], .ofText "elsewhere"⟩
  else .answer (referral status)

/-- A forwarder whose delegate answers with a redirect. -/
def moved (status : Nat) : Forwarder := ⟨.empty, some deployed, moving status⟩

/-- A store with a local backend that is available. -/
def oneAvailable : Store := (Store.new (.forAggregator "/registry" .json)).writeAll [
  .upsert ⟨⟨"g", "v1"⟩, ⟨100, 9⟩, none⟩, .setAvailable ⟨"g", "v1"⟩ true none]

/-- A request to read things. -/
def reading : Http.Request :=
  ⟨"GET", ⟨"/apis/g/v1/things", none, "/apis/g/v1/things"⟩, [], []⟩

theorem get?_oneAvailable :
    oneAvailable.get? ⟨"g", "v1"⟩ = some ⟨⟨⟨"g", "v1"⟩, ⟨100, 9⟩, none⟩, true, none⟩ := by
  decide +kernel

theorem network_moved (status : Nat) :
    (moved status).network (sent reading requested) = .answer (referral status) :=
  if_neg (by decide +kernel)

/-- A redirect that would have the body repeated is relayed. -/
theorem forward_relays_found :
    let forwarded := (moved 302).forward oneAvailable ⟨"g", "v1"⟩ reading
    forwarded.contacted = [requested] ∧
      forwarded.answer =
        some ⟨302, [("location", .ofText "http://[::2]/x")], .ofText "moved"⟩ := by
  have resolved : (moved 302).base ⟨⟨"g", "v1"⟩, ⟨100, 9⟩, none⟩ = .ok deployed := rfl
  have addressed : deployed.below reading.target.pathAndQuery = .ok requested := rfl
  have own : (sent reading requested).url = requested := by decide +kernel
  have reached := network_moved 302
  obtain ⟨-, becomes⟩ := forward_relays (moved 302) oneAvailable ⟨"g", "v1"⟩ reading
    get?_oneAvailable rfl resolved addressed
  cases becomes with
  | refused unsendable => exact absurd ⟨by decide +kernel, by decide +kernel⟩ unsendable
  | unanswered sendable silent => exact absurd reached (silent _)
  | relayed sendable answered stays contacted answer =>
    rw [reached, Http.Reply.answer.injEq] at answered
    subst answered
    exact ⟨contacted.trans (by rw [own]), answer.trans (by decide +kernel)⟩
  | stranded sendable answered leads | diverted sendable answered leads =>
    rw [reached, Http.Reply.answer.injEq] at answered
    subst answered
    rcases leads.status with other | ⟨-, posted⟩
    · cases other
    · rw [sent, Http.method_prepare] at posted
      exact absurd posted (by decide)

/-- A redirect that drops the body is not relayed: another server is contacted, and the client is
given its answer. -/
theorem forward_diverted :
    let forwarded := (moved 303).forward oneAvailable ⟨"g", "v1"⟩ reading
    oneAvailable.get? ⟨"g", "v1"⟩ = some ⟨⟨⟨"g", "v1"⟩, ⟨100, 9⟩, none⟩, true, none⟩ ∧
      (moved 303).base ⟨⟨"g", "v1"⟩, ⟨100, 9⟩, none⟩ = .ok deployed ∧
      deployed.below reading.target.pathAndQuery = .ok requested ∧
      (moved 303).network (sent reading requested) = .answer (referral 303) ∧
      forwarded.contacted = [requested, elsewhere] ∧ elsewhere ≠ requested ∧
      forwarded.answer = some ⟨200, [], .ofText "elsewhere"⟩ ∧
      forwarded.answer ≠ some (relayed (referral 303)) := by
  have answer : ((moved 303).forward oneAvailable ⟨"g", "v1"⟩ reading).answer =
      some ⟨200, [], .ofText "elsewhere"⟩ := by decide +kernel
  refine ⟨get?_oneAvailable, rfl, rfl, network_moved 303, by decide +kernel, by decide, answer, ?_⟩
  rw [answer]
  decide

/-! ### How a request counts -/

/-- The label of an identity: its own if it is registered. -/
def labelIn (store : Store) (identity : Identity) : String :=
  if (store.get? identity).isSome then identity.display else unregisteredLabel

/-- Only what is not registered is refused as such, and counts under the shared label. -/
theorem label_refused {target : Http.Target} {error : ForwardError}
    (refused : forwarder.destination store identity target = .error error) :
    label identity (.error error) = labelIn store identity := by
  unfold destination at refused
  split at refused
  · next missing =>
    cases refused
    rw [labelIn, missing]
    rfl
  · next registration known =>
    have registered : labelIn store identity = identity.display := if_pos (by rw [known]; rfl)
    rw [registered]
    split at refused
    · split at refused
      · cases refused
        rfl
      · split at refused
        · cases refused
        · cases refused
          rfl
    · cases refused
      rfl

theorem observed_conclude (method : String) (contacted : List Url)
    (result : Except ForwardError Http.Response) :
    (conclude identity method contacted result).observed =
      (conclude identity method contacted result).answer.toList.map fun response =>
        .proxied method response.status (label identity result) := rfl

/-- **A request counts once if it is answered**, under its method, the status of the answer, and the
label of its identity, and not at all if it is not. -/
theorem observed_forward :
    (forwarder.forward store identity request).observed =
      (forwarder.forward store identity request).answer.toList.map fun response =>
        .proxied request.method response.status (labelIn store identity) := by
  rcases found : forwarder.destination store identity request.target with error | url
  · have refused : forwarder.forward store identity request =
        conclude identity request.method [] (.error error) := by
      unfold forward
      rw [found]
    rw [refused, observed_conclude, label_refused _ _ _ found]
  · have known : labelIn store identity = identity.display :=
      if_pos (get?_of_destination found)
    rw [known, forward_of_destination found]
    rcases (forwarder.exchange request url).result with error | response
    · cases error <;> rfl
    · rfl

/-! ### Statuses -/

/-- What is not registered is answered as not found. -/
theorem answer_of_missing (missing : store.get? identity = none) :
    (forwarder.forward store identity request).answer =
      some (.text 404 (ForwardError.notRegistered identity).message) := by
  have refused : forwarder.destination store identity request.target =
      .error (.notRegistered identity) := by
    unfold destination
    rw [missing]
  unfold forward
  rw [refused]
  rfl

/-- Answers have statuses of three digits if those of the backends have. -/
theorem status_answer {answer : Http.Response}
    (proper : ∀ outgoing reply, forwarder.network outgoing = .answer reply →
      100 ≤ reply.status ∧ reply.status < 1000)
    (given : (forwarder.forward store identity request).answer = some answer) :
    100 ≤ answer.status ∧ answer.status < 1000 := by
  rcases found : forwarder.destination store identity request.target with error | url
  · have own : (forwarder.forward store identity request).answer =
        some (.text error.status error.message) := by
      unfold forward
      rw [found]
      rfl
    rw [own] at given
    cases given
    show 100 ≤ error.status ∧ error.status < 1000
    cases error <;> simp [ForwardError.status]
  · rcases answer_of_exchange _ _ _ _ found given with rfl | ⟨last, reply, -, answered, rfl⟩
    · exact ⟨by decide, by decide⟩
    · exact proper last reply answered

end Forwarder

end Aggregation
