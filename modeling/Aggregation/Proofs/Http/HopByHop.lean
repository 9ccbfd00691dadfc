/-
**Which headers cross the forwarder.**

A header concerns one connection only if its name is one of the eight that always do, or if the
`connection` headers of its own message name it (`nominated`, `IsHopByHop`). The forwarder passes on
every header but those of the eight names, and of a request the host: with the same values in the
same order, in both directions (`Passes`, `headers_crossing`). It does not read what the
`connection` headers say. So a header that they name crosses whenever it is there and is not one of
the eight (`Passes.crosses_iff`), while the header that named it does not: whoever receives it
cannot tell any more that it was not meant to come this far (`nominated_crosses`).
-/

import Aggregation.Proofs.Http.Decision
import Mathlib.Data.List.DropRight

namespace Aggregation

namespace Http

namespace Headers

/-- One option of a `connection` header, without blanks around it and in lower case. What is no text
is no name of a header. -/
def connectionOption? (option : Bytes) : Option String :=
  let isBlank (byte : UInt8) : Bool := byte = 0x20 || byte = 0x09
  (Text.Utf8.decode? ((option.dropWhile isBlank).rdropWhile isBlank)).map fun text =>
    String.ofList (text.map Char.toLower)

/-- The options that the `connection` headers of a message name, between commas. -/
def nominated (headers : Headers) : List String :=
  (headers.values "connection").flatMap fun value =>
    (value.splitOn 0x2C).filterMap connectionOption?

/-- A header concerns one connection only. -/
def IsHopByHop (headers : Headers) (name : String) : Prop :=
  name ∈ hopByHop ∨ name ∈ headers.nominated

instance (headers : Headers) (name : String) : Decidable (headers.IsHopByHop name) :=
  inferInstanceAs (Decidable (name ∈ hopByHop ∨ name ∈ headers.nominated))

end Headers

open Headers (hopByHop IsHopByHop)

/-- Headers are passed on as they are, except for the eight names and some that are withheld. -/
structure Passes (withheld : List String) (headers passed : Headers) : Prop where
  stripped : ∀ name, name ∈ hopByHop ∨ name ∈ withheld → passed.values name = []
  kept : ∀ name, name ∉ hopByHop → name ∉ withheld → passed.values name = headers.values name

namespace Passes

variable {withheld : List String} {headers passed : Headers}

theorem of_filter (withheld : List String) (headers : Headers) :
    Passes withheld headers
      (headers.filter fun header => header.1 ∉ hopByHop ∧ header.1 ∉ withheld) := by
  have values := Headers.values_filter (fun name => name ∉ hopByHop ∧ name ∉ withheld) headers
  refine ⟨fun name gone => ?_, fun name other passable => ?_⟩
  · exact (values name).trans (if_neg (by simpa [or_iff_not_imp_left] using gone))
  · exact (values name).trans (if_pos (by simp [other, passable]))

/-- A header that concerns one connection only crosses if it was there, under none of the eight
names and not withheld, and the `connection` headers name it. -/
theorem crosses_iff (passes : Passes withheld headers passed) (name : String) :
    headers.IsHopByHop name ∧ passed.values name ≠ [] ↔
      name ∈ headers.nominated ∧ headers.values name ≠ [] ∧ name ∉ hopByHop ∧
        name ∉ withheld := by
  by_cases gone : name ∈ hopByHop ∨ name ∈ withheld
  · rw [passes.stripped name gone]
    tauto
  · obtain ⟨other, passable⟩ := not_or.mp gone
    rw [passes.kept name other passable, IsHopByHop]
    tauto

end Passes

end Http

namespace Forwarder

open Http (Passes)
open Http.Headers (hopByHop)

/-- A backend sees the headers of a request, less the eight names and the host. -/
theorem passes_outgoingHeaders (headers : Http.Headers) :
    Passes ["host"] headers (outgoingHeaders headers) := by
  have shape : outgoingHeaders headers =
      headers.filter fun header => header.1 ∉ hopByHop ∧ header.1 ∉ ["host"] := by
    rw [outgoingHeaders, Http.endToEnd_eq, Http.Headers.remove, List.filter_filter]
    refine List.filter_congr fun header _ => ?_
    by_cases host : header.1 = "host"
    · simp [host]
    · simp [host]
  rw [shape]
  exact .of_filter ["host"] headers

/-- A client sees the headers of an answer, less the eight names. -/
theorem passes_relayed (response : Http.Response) :
    Passes [] response.headers (relayed response).headers := by
  have shape : (relayed response).headers =
      response.headers.filter fun header => header.1 ∉ hopByHop ∧ header.1 ∉ [] := by
    rw [relayed_eq]
    exact List.filter_congr fun header _ => by simp
  rw [shape]
  exact .of_filter [] response.headers

variable (forwarder : Forwarder) (store : Store) (identity : Identity) (request : Http.Request)

/-- What the transport brings is relayed. -/
theorem answer_of_transport {outgoing : Http.Outgoing} {response : Http.Response}
    (handed : forwarder.handed? store identity request = some outgoing)
    (brought : (forwarder.transport outgoing).result = .ok response) :
    (forwarder.forward store identity request).answer = some (relayed response) := by
  obtain ⟨url, found, rfl⟩ := Option.map_eq_some_iff.mp handed
  have result : (forwarder.exchange request url).result = .ok response := brought
  rw [answer_forward (Http.eq_ok_of_toOption found), result]
  rfl

/--
**The eight names never cross, all other headers do, and so do those that are named.** For every
request that is handed to the transport, and every response that comes back: no header of the eight
names is passed on, and every other one is, with its values in their order, except the host of a
request. A header that the message's own `connection` headers name is passed on as well if it is
there and has another name.
-/
theorem headers_crossing {outgoing : Http.Outgoing}
    (handed : forwarder.handed? store identity request = some outgoing) :
    (Passes ["host"] request.headers outgoing.headers ∧
      ∀ name, request.headers.IsHopByHop name ∧ outgoing.headers.values name ≠ [] ↔
        name ∈ request.headers.nominated ∧ request.headers.values name ≠ [] ∧
          name ∉ hopByHop ∧ name ≠ "host") ∧
    ∀ response, (forwarder.transport outgoing).result = .ok response →
      ∃ answer, (forwarder.forward store identity request).answer = some answer ∧
        Passes [] response.headers answer.headers ∧
        ∀ name, response.headers.IsHopByHop name ∧ answer.headers.values name ≠ [] ↔
          name ∈ response.headers.nominated ∧ response.headers.values name ≠ [] ∧
            name ∉ hopByHop := by
  obtain ⟨-, -, -, -, -, -, headers, -⟩ :=
    forwarder.addressed_of_handed store identity request handed
  have sent : Passes ["host"] request.headers outgoing.headers :=
    headers ▸ passes_outgoingHeaders request.headers
  refine ⟨⟨sent, by simpa using sent.crosses_iff⟩, fun response brought => ?_⟩
  have given := passes_relayed response
  exact ⟨relayed response, forwarder.answer_of_transport store identity request handed brought,
    given, by simpa using given.crosses_iff⟩

/-- Headers of which a private one is named, in another case, by the second of two `connection`
headers. -/
def naming : Http.Headers :=
  [("connection", .ofText "close"), ("x-shared", .ofText "a"), ("x-private", .ofText "1"),
    ("connection", .ofText "TE, X-Private"), ("te", .ofText "trailers"), ("x-shared", .ofText "b")]

/-- A forwarder whose delegate answers with such headers. -/
def echoing : Forwarder := ⟨.empty, some deployed, fun _ => .answer ⟨200, naming, []⟩⟩

theorem handed?_echoing (headers : Http.Headers) :
    echoing.handed? oneAvailable ⟨"g", "v1"⟩ { reading with headers } =
      some ⟨"GET", requested, outgoingHeaders headers, some []⟩ := by
  have found : echoing.destination oneAvailable ⟨"g", "v1"⟩ reading.target = .ok requested :=
    destination_eq_ok get?_oneAvailable rfl rfl rfl
  rw [handed?, found]
  rfl

/-- Both values of a shared header cross, in both directions, and the `te` header in neither. -/
theorem headers_crossing_shared :
    let forwarded := echoing.forward oneAvailable ⟨"g", "v1"⟩ { reading with headers := naming }
    (outgoingHeaders naming).values "x-shared" = [.ofText "a", .ofText "b"] ∧
      ∃ answer, forwarded.answer = some answer ∧
        answer.headers.values "x-shared" = [.ofText "a", .ofText "b"] ∧
        answer.headers.values "te" = [] := by
  obtain ⟨⟨sent, -⟩, given⟩ := headers_crossing echoing oneAvailable ⟨"g", "v1"⟩
    { reading with headers := naming } (handed?_echoing naming)
  obtain ⟨answer, answered, passes, -⟩ := given ⟨200, naming, []⟩
    (Http.eq_ok_of_toOption (by decide +kernel))
  have shared : naming.values "x-shared" = [.ofText "a", .ofText "b"] := by decide
  exact ⟨(sent.kept _ (by decide) (by decide)).trans shared, answer, answered,
    (passes.kept _ (by decide) (by decide)).trans shared, passes.stripped _ (by decide)⟩

/-- **A header that is named crosses in both directions.** -/
theorem nominated_crosses :
    let forwarded := echoing.forward oneAvailable ⟨"g", "v1"⟩ { reading with headers := naming }
    naming.IsHopByHop "x-private" ∧
      (∃ outgoing, echoing.handed? oneAvailable ⟨"g", "v1"⟩
          { reading with headers := naming } = some outgoing ∧
        outgoing.headers.values "x-private" = [.ofText "1"]) ∧
      ∃ answer, forwarded.answer = some answer ∧
        answer.headers.values "x-private" = [.ofText "1"] := by
  refine ⟨by decide +kernel, ⟨_, handed?_echoing naming, by decide⟩, ?_⟩
  exact ⟨relayed ⟨200, naming, []⟩, by decide +kernel, by decide⟩

end Forwarder

end Aggregation
