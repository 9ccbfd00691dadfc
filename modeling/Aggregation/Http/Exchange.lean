/-
**Exchanges with backends.**

A `Network` says what comes back when a request reaches the host of a URL: an answer, a broken
connection, or nothing at all. `send` makes one exchange over a network as the aggregator's client
does:

* only `http` and `https` are spoken: no host is contacted for a URL of another scheme;
* credentials in the URL become an `authorization` header, and an `accept` header is added;
* redirects are followed for at most ten hops; a request whose body is a stream cannot be repeated,
  so only those redirects are followed for it that drop the body;
* the URLs that were contacted are recorded in their order.
-/

import Aggregation.Http.Message
import Aggregation.Http.Status
import Aggregation.Text.Base64
import Aggregation.Url.Parser

namespace Aggregation.Http

/-- A request as a backend sees it. -/
structure Outgoing where
  method : String
  url : Url
  headers : Headers
  /-- The streamed body, or nothing for a request without one. -/
  body : Option Bytes

/-- What comes back from a backend. -/
inductive Reply where
  | answer (response : Response)
  | broken
  | silent

/-- What comes back for each request. -/
abbrev Network := Outgoing → Reply

namespace Network

/-- No connection can be made. -/
def offline : Network := fun _ => .broken

end Network

/-- Why an exchange gave no answer. -/
inductive ExchangeError where
  | notSendable (url : Url)
  | failed (url : Url)
  | tooManyRedirects (url : Url)
  | notFollowable (url : Url)
  | timeout
deriving DecidableEq

namespace ExchangeError

/-- The error in words. -/
def message : ExchangeError → String
  | notSendable url | notFollowable url => "builder error for url (" ++ url.display ++ ")"
  | failed url => "error sending request for url (" ++ url.display ++ ")"
  | tooManyRedirects url => "error following redirect for url (" ++ url.display ++ ")"
  | timeout => "operation timed out"

end ExchangeError

/-- An exchange: the URLs that were contacted, and what it ended with. -/
structure Exchange where
  contacted : List Url
  result : Except ExchangeError Response

/-! ### Preparing a request -/

/-- Whether a URL is of a scheme that is spoken. -/
def isSpoken (url : Url) : Bool := url.scheme == "http" || url.scheme == "https"

/-- Whether a URL can be the target of a request. -/
def isTarget (url : Url) : Bool := (Target.parse? url.display).isSome

/-- The text of a percent-encoded username or password. -/
def decodedText? (encoded : String) : Option String :=
  Bytes.text? (Text.Percent.decode encoded.toList)

/-- The credentials of a URL, unless they cannot be read as text. -/
def credentials? (url : Url) : Option (String × String) := do
  let username ← decodedText? url.username
  let password := (decodedText? url.password).getD ""
  if username = "" ∧ password = "" then none else some (username, password)

/-- The header that carries credentials. -/
def basicAuthorization (username password : String) : Bytes :=
  .ofText ("Basic " ++ Text.Base64.encode (Bytes.ofText (username ++ ":" ++ password)))

/-- A request to a URL, with its credentials moved to a header unless one is there. -/
def prepare (method : String) (url : Url) (headers : Headers) (body : Option Bytes) : Outgoing :=
  let headers :=
    if headers.has "accept" then headers else headers ++ [("accept", .ofText "*/*")]
  match credentials? url with
  | none => ⟨method, url, headers, body⟩
  | some (username, password) =>
    let headers :=
      if headers.has "authorization" then headers
      else headers ++ [("authorization", basicAuthorization username password)]
    ⟨method, url.withoutCredentials, headers, body⟩

/-! ### Redirects -/

/-- The method after a redirect that is followed, and whether the body is dropped. -/
def followed? (status : Nat) (method : String) (repeatable : Bool) : Option (String × Bool) :=
  if status = 303 then some (if method = "HEAD" then method else "GET", true)
  else if (status = 301 ∨ status = 302) ∧ method = "POST" then some ("GET", true)
  else if status ∈ [301, 302, 307, 308] ∧ repeatable then some (method, false)
  else none

/-- Where an answer says to look instead, if that can be read and be the target of a request. -/
def location? (url : Url) (response : Response) : Option Url := do
  let written ← response.headers.first? "location"
  let location ← written.text?
  (url.join location).toOption.filter isTarget

/-- The port of a URL, or the one that its scheme implies. -/
def effectivePort? (url : Url) : Option Nat := url.port <|> defaultPort? url.scheme

/-- Whether two URLs name the same host and port. -/
def sameHost (a b : Url) : Bool := a.host == b.host && effectivePort? a == effectivePort? b

/-- The names of headers that say something of a body. -/
def aboutBody : List String := [
  "content-type", "content-length", "content-encoding", "transfer-encoding"]

/-- The names of headers that are for one host only. -/
def confidential : List String := [
  "authorization", "cookie", "cookie2", "proxy-authorization", "www-authenticate"]

/-- The names of headers that a redirect leaves behind. -/
def leftBehind (previous url : Url) (dropsBody : Bool) : List String :=
  (if dropsBody then aboutBody else []) ++ if sameHost previous url then [] else confidential

/-- How a request refers to the URL that led to its own. What was read over `https` is not told over
`http`. -/
def referer? (previous url : Url) : Option Bytes :=
  if previous.scheme = "https" ∧ url.scheme = "http" then none
  else some (.ofText { previous.withoutCredentials with fragment := none }.display)

/-- The request that a redirect leads to. -/
def redirected (request : Outgoing) (method : String) (dropsBody : Bool) (url : Url) : Outgoing :=
  let headers := (leftBehind request.url url dropsBody).foldl Headers.remove request.headers
  let headers :=
    match referer? request.url url with
    | none => headers
    | some referer => headers.set "referer" referer
  ⟨method, url, headers, if dropsBody then none else request.body⟩

/-- The request that follows an answer, if that is a redirect that is followed. -/
def Outgoing.next? (request : Outgoing) (response : Response) : Option Outgoing := do
  let (method, dropsBody) ← followed? response.status request.method request.body.isNone
  let url ← location? request.url response
  some (redirected request method dropsBody url)

/-- The number of redirects that are followed. -/
def redirectLimit : Nat := 10

/-- Sends a request and follows redirects, `left` more of them. -/
def sendOver (network : Network) (left : Nat) (request : Outgoing) : Exchange :=
  match network request with
  | .broken => ⟨[request.url], .error (.failed request.url)⟩
  | .silent => ⟨[request.url], .error .timeout⟩
  | .answer response =>
    match request.next? response with
    | none => ⟨[request.url], .ok response⟩
    | some next =>
      match left with
      | 0 => ⟨[request.url], .error (.tooManyRedirects request.url)⟩
      | left + 1 =>
        if isSpoken next.url then
          let rest := sendOver network left next
          ⟨request.url :: rest.contacted, rest.result⟩
        else ⟨[request.url], .error (.notFollowable next.url)⟩

/-- Makes one exchange. A URL that is not spoken, or that cannot be a request's target, is not sent
to. -/
def send (network : Network) (method : String) (url : Url) (headers : Headers)
    (body : Option Bytes) : Exchange :=
  let request := prepare method url headers body
  if isSpoken request.url && isTarget request.url then sendOver network redirectLimit request
  else ⟨[], .error (.notSendable request.url)⟩

end Aggregation.Http
