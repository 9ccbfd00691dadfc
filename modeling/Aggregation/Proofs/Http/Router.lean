/-
**Which requests below a listed path reach its backend.**

Listed paths and request paths are read by two parsers: a listed path is cut at its slashes once,
while a request is matched against the routes and its parameters are percent-decoded. They agree
(`dispatch_listed`) on the paths of groups whose group and version hold no percent triplets and on
everything below them, apart from the bare slash and rests that are not text. On all else they do
not: there is no route for the core API, a bare slash behind the version matches none, and a triplet
makes the request one for another identity.
-/

import Aggregation.Http.Router
import Aggregation.Proofs.Identity
import Aggregation.Proofs.Text.Percent

namespace Aggregation.Http

open Text.Percent (hasTriplet)

/-! ### Matching routes -/

/-- The route of a group and a version, and of what is behind them. -/
theorem ofGroup?_eq {group version : List Char} (undivided : '/' ∉ group)
    (undividedVersion : '/' ∉ version) (given : version ≠ []) {behind : List Char}
    (separated : behind = [] ∨ ∃ rest, behind = '/' :: rest) :
    Route.ofGroup? (group ++ '/' :: (version ++ behind)) =
      if behind = ['/'] then none else some (.backend group version (behind.drop 1)) := by
  have first := Text.takeWhile_part undivided (.inr ⟨version ++ behind, rfl⟩)
  have second := Text.takeWhile_part undividedVersion separated
  unfold Route.ofGroup?
  simp only [first, List.drop_left, second]
  rcases separated with rfl | ⟨rest, rfl⟩
  · simp [given]
  · simp

theorem afterStart?_append (start : String) (rest : List Char) :
    Route.afterStart? start (start.toList ++ rest) = some rest := by
  simp [Route.afterStart?, ← String.length_toList]

theorem afterStart?_eq_none {start : String} {c d : Char} {others rest : List Char}
    (chars : start.toList = '/' :: c :: others) (differs : c ≠ d) :
    Route.afterStart? start ('/' :: d :: rest) = none := by
  simp [Route.afterStart?, chars, differs]

/-- A path that starts like those of identities is below `/apis/` or has no route. -/
theorem ofPath?_api {path : String} {rest : List Char}
    (api : path.toList = '/' :: 'a' :: 'p' :: rest) :
    Route.ofPath? path = Route.afterStart? "/apis/" path.toList >>= Route.ofGroup? := by
  have notListing : path ≠ "/aggregator/backends" := by
    intro same
    have chars : "/aggregator/backends".toList =
        '/' :: 'a' :: 'g' :: "gregator/backends".toList := by decide
    rw [same, chars, List.cons.injEq, List.cons.injEq, List.cons.injEq] at api
    exact absurd api.2.2.1 (by decide)
  have health : "/healthz".toList = '/' :: 'h' :: "ealthz".toList := by decide
  have live : "/livez".toList = '/' :: 'l' :: "ivez".toList := by decide
  have ready : "/readyz".toList = '/' :: 'r' :: "eadyz".toList := by decide
  unfold Route.ofPath?
  rw [if_neg notListing]
  rw [api, afterStart?_eq_none health (by decide), afterStart?_eq_none live (by decide),
    afterStart?_eq_none ready (by decide)]
  rfl

/-- There is no route for the core API. -/
theorem ofPath?_core (tail : String) : Route.ofPath? (Identity.core.path ++ tail) = none := by
  have chars : (Identity.core.path ++ tail).toList =
      '/' :: 'a' :: 'p' :: 'i' :: '/' :: 'v' :: '1' :: tail.toList := by
    have core : Identity.core.path.toList = ['/', 'a', 'p', 'i', '/', 'v', '1'] := by
      decide +kernel
    rw [String.toList_append, core]
    rfl
  have apis : "/apis/".toList = ['/', 'a', 'p', 'i', 's', '/'] := by decide
  rw [ofPath?_api chars, chars]
  simp [Route.afterStart?, apis]

/-- The route of the path of a group, and of what is behind it. -/
theorem ofPath?_group {identity : Identity} (group : Identity.IsPart identity.group)
    (version : Identity.IsPart identity.version) {tail : String}
    (separated : tail = "" ∨ ∃ rest, tail = "/" ++ rest) :
    Route.ofPath? (identity.path ++ tail) =
      if tail = "/" then none
      else some (.backend identity.group.toList identity.version.toList (tail.toList.drop 1)) := by
  have apis : "/apis/".toList = ['/', 'a', 'p', 'i', 's', '/'] := by decide
  have chars : (identity.path ++ tail).toList = "/apis/".toList ++
      (identity.group.toList ++ '/' :: (identity.version.toList ++ tail.toList)) := by
    rw [String.toList_append, Identity.toList_path group.1, apis]
    simp
  have behind : tail.toList = [] ∨ ∃ rest, tail.toList = '/' :: rest := by
    rcases separated with rfl | ⟨rest, rfl⟩
    · exact .inl rfl
    · exact .inr ⟨rest.toList, by simp⟩
  have slash : tail.toList = ['/'] ↔ tail = "/" := by
    rw [← String.toList_inj]
    rfl
  have api : (identity.path ++ tail).toList = '/' :: 'a' :: 'p' :: 'i' :: 's' :: '/' ::
      (identity.group.toList ++ '/' :: (identity.version.toList ++ tail.toList)) := by
    rw [chars, apis]
    rfl
  rw [ofPath?_api api, chars, afterStart?_append, Option.bind_eq_bind, Option.bind_some,
    ofGroup?_eq group.2 version.2 (by simpa using version.1) behind]
  simp only [slash]

/-! ### Parameters -/

theorem decodeParameter_eq_ok_iff {name text : String} :
    decodeParameter name text.toList = .ok text ↔ hasTriplet text.toList = false := by
  rw [← Text.Percent.decode?_decode_eq_iff]
  unfold decodeParameter
  split
  · next found => simp [found, ← String.toList_inj]
  · next none => simp [none]

/-! ### Listed paths -/

/-- What a listed identity and the text behind its path have to be for requests to reach its
backend. -/
structure Reachable (identity : Identity) (tail : String) : Prop where
  grouped : identity.group ≠ ""
  plainGroup : hasTriplet identity.group.toList = false
  plainVersion : hasTriplet identity.version.toList = false
  notSlash : tail ≠ "/"
  isText : (Text.Utf8.decode? (Text.Percent.decode (tail.toList.drop 1))).isSome = true

namespace Router

variable {σ : Type} (router : Router σ) (conditions : σ) (store : Store) (request : Request)

theorem dispatch_noRoute (none : Route.ofPath? request.target.path = none) :
    router.dispatch conditions store request = own (.bare 404) := by
  simp [dispatch, none]

theorem dispatch_backend {group version rest : List Char}
    (found : Route.ofPath? request.target.path = some (.backend group version rest)) :
    router.dispatch conditions store request =
      router.toBackend store group version rest request := by
  simp [dispatch, found, Route.takesAnyMethod, follow]

/-- Without triplets in the group and the version, and with a rest that is text, a request is
forwarded for the identity that was written. -/
theorem toBackend_reachable {identity : Identity} {rest : List Char}
    (group : hasTriplet identity.group.toList = false)
    (version : hasTriplet identity.version.toList = false)
    (isText : (Text.Utf8.decode? (Text.Percent.decode rest)).isSome = true) :
    router.toBackend store identity.group.toList identity.version.toList rest request =
      router.forwarder.forward store identity request := by
  obtain ⟨text, decoded⟩ := Option.isSome_iff_exists.mp isText
  have restRead : decodeParameter "rest" rest = .ok (String.ofList text) := by
    simp [decodeParameter, decoded]
  rw [toBackend, decodeParameter_eq_ok_iff.mpr group, decodeParameter_eq_ok_iff.mpr version,
    restRead]

/-- Anything else is refused, or forwarded for another identity. -/
theorem toBackend_cases (identity : Identity) (rest : List Char) :
    (hasTriplet identity.group.toList = false ∧ hasTriplet identity.version.toList = false ∧
        (Text.Utf8.decode? (Text.Percent.decode rest)).isSome = true) ∨
      (∃ response, router.toBackend store identity.group.toList identity.version.toList rest
        request = own response) ∨
      ∃ other, other ≠ identity ∧
        router.toBackend store identity.group.toList identity.version.toList rest request =
          router.forwarder.forward store other request := by
  unfold toBackend
  split
  · exact .inr (.inl ⟨_, rfl⟩)
  · exact .inr (.inl ⟨_, rfl⟩)
  · exact .inr (.inl ⟨_, rfl⟩)
  · next group version rest' groupRead versionRead restRead =>
    by_cases same : (⟨group, version⟩ : Identity) = identity
    · subst same
      refine .inl ⟨decodeParameter_eq_ok_iff.mp groupRead,
        decodeParameter_eq_ok_iff.mp versionRead, ?_⟩
      unfold decodeParameter at restRead
      split at restRead
      · next decoded => rw [decoded, Option.isSome_some]
      · cases restRead
    · exact .inr (.inr ⟨⟨group, version⟩, same, rfl⟩)

/-- Requests for a listed path and for what is below it reach the identity that was listed exactly
as far as `Reachable` says. The core API and a bare slash are answered as not found, and everything
else is refused or forwarded for another identity. -/
theorem dispatch_listed {path : String} {identity : Identity}
    (listed : Identity.ofPath? path = some identity) {tail : String}
    (separated : tail = "" ∨ ∃ rest, tail = "/" ++ rest)
    (target : request.target.path = path ++ tail) :
    (Reachable identity tail → router.dispatch conditions store request =
        router.forwarder.forward store identity request) ∧
      (identity.group = "" ∨ tail = "/" →
        router.dispatch conditions store request = own (.bare 404)) ∧
      (¬Reachable identity tail →
        (∃ response, router.dispatch conditions store request = own response) ∨
          ∃ other, other ≠ identity ∧ router.dispatch conditions store request =
            router.forwarder.forward store other request) := by
  obtain ⟨listable, rfl⟩ := Identity.ofPath?_eq_some_iff.mp listed
  rcases listable with rfl | ⟨group, version⟩
  · have answer : router.dispatch conditions store request = own (.bare 404) :=
      dispatch_noRoute router conditions store request (by rw [target, ofPath?_core])
    exact ⟨fun reachable => absurd rfl reachable.grouped, fun _ => answer,
      fun _ => .inl ⟨_, answer⟩⟩
  · have route := ofPath?_group group version separated
    rw [← target] at route
    -- A bare slash is the only text behind the path that matches no route.
    by_cases slash : tail = "/"
    · have answer : router.dispatch conditions store request = own (.bare 404) :=
        dispatch_noRoute router conditions store request (by rw [route, if_pos slash])
      exact ⟨fun reachable => absurd slash reachable.notSlash, fun _ => answer,
        fun _ => .inl ⟨_, answer⟩⟩
    · rw [if_neg slash] at route
      rw [dispatch_backend router conditions store request route]
      refine ⟨fun reachable => ?_, fun missing => ?_, fun unreachable => ?_⟩
      · exact toBackend_reachable router store request reachable.plainGroup
          reachable.plainVersion reachable.isText
      · exact absurd missing (not_or.mpr ⟨group.1, slash⟩)
      · rcases toBackend_cases router store request identity (tail.toList.drop 1) with
          ⟨plainGroup, plainVersion, isText⟩ | others
        · exact absurd ⟨group.1, plainGroup, plainVersion, slash, isText⟩ unreachable
        · exact others

/-- A router without checks, addresses and a network. -/
def offline : Router Unit := ⟨.empty, ⟨.empty, none, .offline⟩⟩

/-- A store with the core API and a group. -/
def twoBackends : Store :=
  let store := ((Store.new (.forAggregator "/registry" .json)).upsert
    ⟨.core, ⟨18000, 1⟩, none⟩).1
  (store.upsert ⟨⟨"g", "v1"⟩, ⟨100, 9⟩, none⟩).1

/-- A request for a path. -/
def requestFor (path : String) : Request := ⟨"GET", ⟨path, none, path⟩, [], []⟩

/-- A request below the path of a group. -/
theorem dispatch_listed_things :
    Identity.ofPath? "/apis/g/v1" = some ⟨"g", "v1"⟩ ∧
      offline.dispatch () twoBackends (requestFor "/apis/g/v1/things") =
        offline.forwarder.forward twoBackends ⟨"g", "v1"⟩ (requestFor "/apis/g/v1/things") := by
  have listed : Identity.ofPath? "/apis/g/v1" = some ⟨"g", "v1"⟩ := by decide +kernel
  have reachable : Reachable ⟨"g", "v1"⟩ "/things" := by
    refine ⟨by decide, by decide, by decide, by decide, ?_⟩
    rw [Text.Percent.decode?_decode_eq_iff.mpr (by decide +kernel), Option.isSome_some]
  exact ⟨listed, (dispatch_listed offline () twoBackends (requestFor "/apis/g/v1/things") listed
    (.inr ⟨"things", by decide⟩) (by decide)).1 reachable⟩

/-- The core API is registered and listed, and a request for its path is not forwarded. -/
theorem dispatch_core :
    (twoBackends.get? .core).isSome = true ∧ Identity.ofPath? "/api/v1" = some .core ∧
      offline.dispatch () twoBackends (requestFor "/api/v1") = own (.bare 404) ∧
      offline.dispatch () twoBackends (requestFor "/api/v1") ≠
        offline.forwarder.forward twoBackends .core (requestFor "/api/v1") := by
  have missing : offline.dispatch () twoBackends (requestFor "/api/v1") = own (.bare 404) :=
    dispatch_noRoute _ _ _ _ (by decide +kernel)
  refine ⟨by decide +kernel, by decide +kernel, missing, fun same => ?_⟩
  rw [missing] at same
  have statuses := congrArg (fun forwarded => forwarded.answer.map Response.status) same
  revert statuses
  decide +kernel

end Router

end Aggregation.Http
