/-
**Requests and responses.**

Headers are a list of names in lower case with their values, in the order in which they were added.
Values and bodies are bytes, which need not be text. Hop-by-hop headers concern one connection only
and are not passed on.
-/

import Aggregation.Bytes
import Aggregation.Http.Target

namespace Aggregation.Http

/-- Header names, in lower case, with their values. -/
abbrev Headers := List (String × Bytes)

namespace Headers

/-- The values of a header in their order. -/
def values (headers : Headers) (name : String) : List Bytes :=
  (headers.filter fun header => header.1 == name).map Prod.snd

/-- The first value of a header. -/
def first? (headers : Headers) (name : String) : Option Bytes := (values headers name).head?

/-- Whether there is a header of a name. -/
def has (headers : Headers) (name : String) : Bool := headers.any fun header => header.1 == name

/-- The headers of other names. -/
def remove (headers : Headers) (name : String) : Headers :=
  headers.filter fun header => header.1 != name

/-- The headers with one value under a name. -/
def set (headers : Headers) (name : String) (value : Bytes) : Headers :=
  remove headers name ++ [(name, value)]

/-- The names of headers that concern one connection only. -/
def hopByHop : List String := [
  "connection", "keep-alive", "proxy-authenticate", "proxy-authorization", "te", "trailer",
  "transfer-encoding", "upgrade"]

/-- The headers that are passed on. -/
def endToEnd (headers : Headers) : Headers := hopByHop.foldl remove headers

/-- The header that carries the identification of a request. -/
def requestIdName : String := "x-request-id"

/-- Whether a value reads as text: visible ASCII, blanks and tabs. -/
def isReadable (value : Bytes) : Bool :=
  value.all fun byte => byte = 0x09 || (0x20 ≤ byte && byte < 0x7F)

/-- The identification that a request came with, if its first one is readable. -/
def requestId (headers : Headers) : String :=
  (((first? headers requestIdName).filter isReadable).bind Bytes.text?).getD "unknown"

end Headers

/-- A request as it is received. -/
structure Request where
  method : String
  target : Target
  headers : Headers
  body : Bytes

namespace Request

/-- Whether a character can stand in a method or a header name. -/
def inToken (c : Char) : Bool :=
  c.isAlphanum || c ∈ ['!', '#', '$', '%', '&', '\x27', '*', '+', '-', '.', '^', '_', '\x60', '|',
    '~']

/-- Whether a text is a method or a header name. -/
def isToken (text : String) : Bool := text ≠ "" && text.toList.all inToken

/-- Whether bytes can be the value of a header. -/
def isHeaderValue (value : Bytes) : Bool :=
  value.all fun byte => byte = 0x09 || (0x20 ≤ byte && byte ≠ 0x7F)

/-- A request from its written parts, if they are well formed. -/
def make? (method uri : String) (headers : Headers) (body : Bytes) : Option Request := do
  let target ← Target.parse? uri
  if isToken method ∧ headers.all (fun header => isToken header.1 && isHeaderValue header.2) then
    some ⟨method, target, headers.map fun header => (header.1.toLower, header.2), body⟩
  else none

end Request

/-- An answer. -/
structure Response where
  status : Nat
  headers : Headers
  body : Bytes
deriving DecidableEq

namespace Response

/-- An answer without a body. -/
def bare (status : Nat) : Response := ⟨status, [], []⟩

/-- An answer in plain text. -/
def text (status : Nat) (body : String) : Response :=
  ⟨status, [("content-type", .ofText "text/plain; charset=utf-8")], .ofText body⟩

/-- An answer in JSON. -/
def json (status : Nat) (body : String) : Response :=
  ⟨status, [("content-type", .ofText "application/json")], .ofText body⟩

/-- The answer without its body. -/
def withoutBody (response : Response) : Response := { response with body := [] }

end Response

end Aggregation.Http
