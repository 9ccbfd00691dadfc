/-
**What an exchange contacts, and what it ends with.**

An exchange sends one request, and one more for each redirect that is followed. A request with a
streamed body cannot be repeated, so its answer leads on only where the next request has no body:
`LeadsTo` says when that is, and where to.

* `sendOver_of_stays`, `sendOver_of_leads`, `sendOver_of_unspoken`: an answer that leads nowhere is
  what the exchange ends with after one contact; any other has a second URL contacted if its scheme
  is spoken, and fails the exchange if not;
* `length_contacted_le`: no more URLs are contacted than there are redirects to follow, and one;
* `result_sendOver`: an exchange that succeeds ends with the answer to its last request.
-/

import Aggregation.Http.Exchange

namespace Aggregation.Http

/-- A request can be sent at all: the scheme of its URL is spoken, and the URL can be the target of
a request. -/
structure Outgoing.IsSendable (request : Outgoing) : Prop where
  spoken : isSpoken request.url = true
  target : isTarget request.url = true

/-- The answer to a request with a streamed body leads on to another URL: its status has the request
followed by one without a body, and its location can be read and be the target of a request. -/
structure LeadsTo (request : Outgoing) (response : Response) (url : Url) : Prop where
  status : response.status = 303 ∨
    (response.status = 301 ∨ response.status = 302) ∧ request.method = "POST"
  location : ∃ written location, response.headers.first? "location" = some written ∧
    written.text? = some location ∧ request.url.join location = .ok url
  target : isTarget url = true

/-! ### Redirects -/

theorem eq_ok_of_toOption {ε α : Type} {result : Except ε α} {value : α}
    (found : result.toOption = some value) : result = .ok value := by
  cases result with
  | error error => cases found
  | ok other =>
    cases found
    rfl

/-- Where an answer says to look instead. -/
theorem location?_eq_some_iff {base : Url} {response : Response} {url : Url} :
    location? base response = some url ↔
      (∃ written location, response.headers.first? "location" = some written ∧
        written.text? = some location ∧ base.join location = .ok url) ∧ isTarget url = true := by
  unfold location?
  constructor
  · intro found
    obtain ⟨written, given, found⟩ := Option.bind_eq_some_iff.mp found
    obtain ⟨location, read, found⟩ := Option.bind_eq_some_iff.mp found
    obtain ⟨joined, target⟩ := Option.filter_eq_some_iff.mp found
    exact ⟨⟨written, location, given, read, eq_ok_of_toOption joined⟩, target⟩
  · rintro ⟨⟨written, location, given, read, joined⟩, target⟩
    refine Option.bind_eq_some_iff.mpr ⟨written, given, ?_⟩
    refine Option.bind_eq_some_iff.mpr ⟨location, read, ?_⟩
    exact Option.filter_eq_some_iff.mpr ⟨by rw [joined]; rfl, target⟩

theorem followed?_streamed (status : Nat) (method : String) :
    (followed? status method false).isSome = true ↔
      status = 303 ∨ (status = 301 ∨ status = 302) ∧ method = "POST" := by
  unfold followed?
  by_cases other : status = 303
  · simp [other]
  · by_cases dropped : (status = 301 ∨ status = 302) ∧ method = "POST"
    · simp [other, dropped]
    · simp [other, dropped]

/-- Which redirects of a request with a streamed body are followed. -/
theorem next?_streamed {request : Outgoing} {body : Bytes} (streamed : request.body = some body)
    (response : Response) (url : Url) :
    (∃ next, request.next? response = some next ∧ next.url = url) ↔
      LeadsTo request response url := by
  have stream : request.body.isNone = false := by rw [streamed]; rfl
  unfold Outgoing.next?
  rw [stream]
  constructor
  · rintro ⟨next, found, rfl⟩
    obtain ⟨⟨method, dropsBody⟩, known, found⟩ := Option.bind_eq_some_iff.mp found
    obtain ⟨url, located, ⟨⟩⟩ := Option.bind_eq_some_iff.mp found
    obtain ⟨location, target⟩ := location?_eq_some_iff.mp located
    exact ⟨(followed?_streamed _ _).mp (by rw [known]; rfl), location, target⟩
  · rintro ⟨status, location, target⟩
    obtain ⟨⟨method, dropsBody⟩, known⟩ :=
      Option.isSome_iff_exists.mp ((followed?_streamed _ _).mpr status)
    refine ⟨redirected request method dropsBody url, ?_, rfl⟩
    rw [known, location?_eq_some_iff.mpr ⟨location, target⟩]
    rfl

/-! ### Sending -/

section Sending

variable {network : Network} {request : Outgoing}

/-- An answer ends the exchange, or has the next request sent as long as redirects are left. -/
theorem sendOver_of_answered {response : Response} (answered : network request = .answer response)
    (left : Nat) :
    sendOver network left request =
      match request.next? response, left with
      | none, _ => ⟨[request.url], .ok response⟩
      | some _, 0 => ⟨[request.url], .error (.tooManyRedirects request.url)⟩
      | some next, left + 1 =>
        if isSpoken next.url then
          ⟨request.url :: (sendOver network left next).contacted,
            (sendOver network left next).result⟩
        else ⟨[request.url], .error (.notFollowable next.url)⟩ := by
  rw [sendOver.eq_def, answered]
  dsimp only
  rcases request.next? response with _ | next
  · rfl
  · cases left with
    | zero => rfl
    | succ left => rfl

/-- An answer that leads nowhere ends the exchange. -/
theorem sendOver_of_stays {response : Response} (answered : network request = .answer response)
    (stays : request.next? response = none) (left : Nat) :
    sendOver network left request = ⟨[request.url], .ok response⟩ := by
  rw [sendOver_of_answered answered, stays]

/-- An answer that leads on has the next request sent. -/
theorem sendOver_of_leads {response : Response} {next : Outgoing}
    (answered : network request = .answer response)
    (leads : request.next? response = some next) (spoken : isSpoken next.url = true)
    (left : Nat) :
    sendOver network (left + 1) request =
      ⟨request.url :: (sendOver network left next).contacted,
        (sendOver network left next).result⟩ := by
  rw [sendOver_of_answered answered, leads]
  exact if_pos spoken

/-- An answer that leads to another scheme fails the exchange. -/
theorem sendOver_of_unspoken {response : Response} {next : Outgoing}
    (answered : network request = .answer response)
    (leads : request.next? response = some next) (unspoken : isSpoken next.url = false)
    (left : Nat) :
    sendOver network (left + 1) request = ⟨[request.url], .error (.notFollowable next.url)⟩ := by
  rw [sendOver_of_answered answered, leads]
  exact if_neg (Bool.eq_false_iff.mp unspoken)

/-- A request that is not answered ends the exchange. -/
theorem sendOver_of_unanswered (unanswered : ∀ response, network request ≠ .answer response)
    (left : Nat) :
    ∃ error, sendOver network left request = ⟨[request.url], .error error⟩ := by
  unfold sendOver
  cases replied : network request with
  | answer response => exact absurd replied (unanswered response)
  | broken => exact ⟨_, rfl⟩
  | silent => exact ⟨_, rfl⟩

/-- What an exchange can be, by what comes back for its request. -/
theorem sendOver_cases (network : Network) (request : Outgoing) (left : Nat) :
    (∃ error, sendOver network left request = ⟨[request.url], .error error⟩) ∨
      (∃ response, network request = .answer response ∧
        sendOver network left request = ⟨[request.url], .ok response⟩) ∨
      ∃ next fewer, left = fewer + 1 ∧ sendOver network left request =
        ⟨request.url :: (sendOver network fewer next).contacted,
          (sendOver network fewer next).result⟩ := by
  by_cases answered : ∃ response, network request = .answer response
  · obtain ⟨response, answered⟩ := answered
    rcases leads : request.next? response with _ | next
    · exact .inr (.inl ⟨response, answered, sendOver_of_stays answered leads left⟩)
    · cases left with
      | zero => exact .inl ⟨_, by rw [sendOver_of_answered answered, leads]⟩
      | succ fewer =>
        cases spoken : isSpoken next.url with
        | true =>
          exact .inr (.inr ⟨next, fewer, rfl, sendOver_of_leads answered leads spoken fewer⟩)
        | false => exact .inl ⟨_, sendOver_of_unspoken answered leads spoken fewer⟩
  · exact .inl (sendOver_of_unanswered (fun response same => answered ⟨response, same⟩) left)

end Sending

/-- The request's own URL is contacted first. -/
theorem head_contacted (network : Network) (left : Nat) (request : Outgoing) :
    ∃ others, (sendOver network left request).contacted = request.url :: others := by
  rcases sendOver_cases network request left with ⟨_, same⟩ | ⟨_, -, same⟩ | ⟨_, _, -, same⟩ <;>
    exact ⟨_, by rw [same]⟩

/-- **At most one URL more is contacted than there are redirects to follow.** -/
theorem length_contacted_le (network : Network) (left : Nat) (request : Outgoing) :
    (sendOver network left request).contacted.length ≤ left + 1 := by
  induction left generalizing request with
  | zero =>
    rcases sendOver_cases network request 0 with ⟨_, same⟩ | ⟨_, -, same⟩ | ⟨_, _, impossible, -⟩
    · rw [same]; exact Nat.le_refl _
    · rw [same]; exact Nat.le_refl _
    · cases impossible
  | succ left ih =>
    rcases sendOver_cases network request (left + 1) with
      ⟨_, same⟩ | ⟨_, -, same⟩ | ⟨next, fewer, one, same⟩
    · rw [same]; exact Nat.succ_le_succ (Nat.zero_le _)
    · rw [same]; exact Nat.succ_le_succ (Nat.zero_le _)
    · cases one
      rw [same]
      exact Nat.succ_le_succ (ih next)

/-- **An exchange that succeeds ends with the answer to its last request.** -/
theorem result_sendOver {network : Network} {left : Nat} {request : Outgoing}
    {response : Response} (succeeds : (sendOver network left request).result = .ok response) :
    ∃ last : Outgoing, (sendOver network left request).contacted.getLast? = some last.url ∧
      network last = .answer response := by
  induction left generalizing request with
  | zero =>
    rcases sendOver_cases network request 0 with
      ⟨_, same⟩ | ⟨answer, answered, same⟩ | ⟨_, _, impossible, -⟩
    · rw [same] at succeeds
      cases succeeds
    · rw [same] at succeeds ⊢
      cases succeeds
      exact ⟨request, rfl, answered⟩
    · cases impossible
  | succ left ih =>
    rcases sendOver_cases network request (left + 1) with
      ⟨_, same⟩ | ⟨answer, answered, same⟩ | ⟨next, fewer, one, same⟩
    · rw [same] at succeeds
      cases succeeds
    · rw [same] at succeeds ⊢
      cases succeeds
      exact ⟨request, rfl, answered⟩
    · cases one
      rw [same] at succeeds ⊢
      obtain ⟨last, contacted, answered⟩ := ih succeeds
      refine ⟨last, ?_, answered⟩
      obtain ⟨others, shape⟩ := head_contacted network left next
      rw [shape] at contacted ⊢
      rwa [List.getLast?_cons_cons]

/-! ### Headers -/

/-- Removing several names keeps the headers of all others. -/
theorem foldl_remove (names : List String) (headers : Headers) :
    names.foldl Headers.remove headers = headers.filter fun header => header.1 ∉ names := by
  induction names generalizing headers with
  | nil =>
    refine (List.filter_eq_self.mpr fun header _ => ?_).symm
    simp
  | cons name rest ih =>
    rw [List.foldl_cons, ih, Headers.remove, List.filter_filter]
    refine List.filter_congr fun header _ => ?_
    by_cases same : header.1 = name
    · simp [same]
    · simp [same]

/-- What is passed on are the headers that are not hop-by-hop, as they are. -/
theorem endToEnd_eq (headers : Headers) :
    headers.endToEnd = headers.filter fun header => header.1 ∉ Headers.hopByHop :=
  foldl_remove Headers.hopByHop headers

namespace Headers

/-- Keeping headers by their names keeps all values of a name, or none. -/
theorem values_filter (kept : String → Bool) (headers : Headers) (name : String) :
    Headers.values (headers.filter fun header => kept header.1) name =
      if kept name then headers.values name else [] := by
  unfold values
  rw [List.filter_filter]
  split
  · next keeps =>
    rw [List.filter_congr fun header _ => ?_]
    by_cases named : header.1 = name
    · simp [named, keeps]
    · simp [named]
  · next drops =>
    rw [List.filter_eq_nil_iff.mpr fun header _ => ?_]
    · rfl
    · by_cases named : header.1 = name
      · simp [named, drops]
      · simp [named]

/-- Removing several names leaves the values of all others. -/
theorem values_foldl_remove (names : List String) (headers : Headers) (name : String) :
    Headers.values (names.foldl remove headers) name =
      if name ∈ names then [] else headers.values name := by
  rw [foldl_remove]
  refine (values_filter (fun name => name ∉ names) headers name).trans ?_
  by_cases removed : name ∈ names <;> simp [removed]

theorem values_set (headers : Headers) (name : String) (value : Bytes) (other : String) :
    (headers.set name value).values other =
      if other = name then [value] else headers.values other := by
  have removed := values_filter (fun name' => name' != name) headers other
  unfold set remove
  unfold values at removed ⊢
  rw [List.filter_append, List.map_append, removed]
  by_cases same : other = name
  · simp [same]
  · simp [same, Ne.symm same]

end Headers

/-- **What a redirect takes along.** Headers that say something of a dropped body are left behind,
and to another host so are those that are for one host only. All others keep their values, except
that one names the URL before. -/
theorem values_redirected (request : Outgoing) (method : String) (dropsBody : Bool) (url : Url)
    (name : String) :
    (redirected request method dropsBody url).headers.values name =
      if name = "referer" ∧ (referer? request.url url).isSome then
        (referer? request.url url).toList
      else if name ∈ leftBehind request.url url dropsBody then []
      else request.headers.values name := by
  have kept :=
    Headers.values_foldl_remove (leftBehind request.url url dropsBody) request.headers name
  unfold redirected
  rcases referer? request.url url with _ | referer
  · simpa using kept
  · simp [Headers.values_set, kept]

end Aggregation.Http
