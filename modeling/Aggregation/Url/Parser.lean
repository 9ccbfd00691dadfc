/-
**Reading URLs.**

`Url.parse` reads a URL on its own and `Url.join` reads one relative to a base. Blanks and controls
around the text and line breaks and tabs inside it are ignored. A special scheme needs a host and
reads backslashes as slashes; a `file` URL may have an empty host, and `localhost` is empty there;
any other scheme has a host only after two slashes.
-/

import Aggregation.Url.Domain
import Aggregation.Url.Path

namespace Aggregation

/-- Why a text is no URL. -/
inductive UrlError where
  | emptyHost
  | invalidDomain
  | invalidHostCharacter
  | invalidPort
  | invalidIpv4
  | invalidIpv6
  | relativeWithoutBase
  | cannotBeBase
deriving DecidableEq

namespace UrlError

/-- The error in words. -/
def message : UrlError → String
  | emptyHost => "empty host"
  | invalidDomain => "invalid international domain name"
  | invalidHostCharacter => "invalid domain character"
  | invalidPort => "invalid port number"
  | invalidIpv4 => "invalid IPv4 address"
  | invalidIpv6 => "invalid IPv6 address"
  | relativeWithoutBase => "relative URL without a base"
  | cannotBeBase => "relative URL with a cannot-be-a-base base"

end UrlError

/-! ### Hosts -/

namespace Host

/-- An address between brackets. -/
def bracketed (text : List Char) : Except UrlError Host :=
  if text.getLast? = some ']' then
    match Net.Ipv6.parse? (text.drop 1).dropLast with
    | some address => .ok (ipv6 address)
    | none => .error .invalidIpv6
  else .error .invalidIpv6

/-- Whether a character cannot stand in the host of a scheme that is not special. -/
def isForbidden (c : Char) : Bool :=
  c.toNat = 0 || c ∈ ['\t', '\n', '\r', ' ', '#', '/', ':', '<', '>', '?', '@', '[', '\\', ']',
    '^', '|']

/-- The host of a scheme that is not special. -/
def parseOther (text : List Char) : Except UrlError Host :=
  if text.head? = some '[' then bracketed text
  else if text.any isForbidden then .error .invalidHostCharacter
  else .ok (domain (String.ofList (Text.Percent.encode UrlPath.isControl text)))

/-- The host of a special scheme: a name that ends in a number is an address. -/
def parseSpecial (text : List Char) : Except UrlError Host :=
  if text.head? = some '[' then bracketed text
  else
    match Domain.toAscii? (Text.Percent.decode text) with
    | none => .error .invalidDomain
    | some [] => .error .emptyHost
    | some name =>
      if Net.Ipv4.endsInNumber name then
        match Net.Ipv4.ofName? name with
        | some address => .ok (ipv4 address)
        | none => .error .invalidIpv4
      else .ok (domain (String.ofList name))

end Host

namespace Url

/-! ### Authorities -/

/-- What stands before the path. -/
structure Authority where
  username : String
  password : String
  host : Option Host
  port : Option Nat

/-- The part of an authority that names nothing. -/
def Authority.none : Authority := ⟨"", "", .none, .none⟩

/-- What a username or password cannot hold. -/
def inUserinfoSet (c : Char) : Bool :=
  UrlPath.inPathSet c || c ∈ ['/', ':', ';', '=', '@', '[', '\\', ']', '^', '|']

/-- Whether a character ends the authority. -/
def endsAuthority (kind : SchemeKind) (c : Char) : Bool :=
  UrlPath.isSlash kind c || c = '?' || c = '#'

/-- Splits a text at its last `@`; without one there is nothing before it. -/
def splitLastAt (text : List Char) : Option (List Char × List Char) :=
  if '@' ∈ text then
    let after := (text.reverse.takeWhile (· ≠ '@')).reverse
    some (text.take (text.length - after.length - 1), after)
  else none

/-- The text of the host and what follows it; a colon between brackets belongs to the host. -/
def splitHost (kind : SchemeKind) : Bool → List Char → List Char × List Char
  | _, [] => ([], [])
  | inside, c :: rest =>
    if endsAuthority kind c || (c = ':' && !inside) then ([], c :: rest)
    else
      let inside := if c = '[' then true else if c = ']' then false else inside
      let (host, after) := splitHost kind inside rest
      (c :: host, after)

/-- A port after its colon, and what follows it; the scheme's own port is not kept. -/
def parsePort (scheme : String) (text : List Char) : Except UrlError (Option Nat × List Char) :=
  let digits := text.takeWhile Char.isDigit
  let rest := text.dropWhile Char.isDigit
  let value := Text.digitsValue 10 digits
  if value > 65535 then .error .invalidPort
  else if rest.head?.all fun c => c ∈ ['/', '\\', '?', '#'] then
    .ok (if digits.isEmpty ∨ defaultPort? scheme = some value then none else some value, rest)
  else .error .invalidPort

/-- The host and port of a scheme other than `file`. -/
def parseHostPort (scheme : String) (text : List Char) :
    Except UrlError (Host × Option Nat × List Char) := do
  let kind := SchemeKind.ofScheme scheme
  let (hostText, rest) := splitHost kind false text
  if hostText.isEmpty ∧ kind = .special then throw .emptyHost
  let host ← if kind.isSpecial then Host.parseSpecial hostText else Host.parseOther hostText
  match rest with
  | ':' :: after =>
    if hostText.isEmpty then throw .emptyHost
    let (port, rest) ← parsePort scheme after
    return (host, port, rest)
  | _ => return (host, none, rest)

/-- The authority of a scheme other than `file`, and what follows it. -/
def parseAuthority (scheme : String) (text : List Char) :
    Except UrlError (Authority × List Char) := do
  let kind := SchemeKind.ofScheme scheme
  let whole := text.takeWhile fun c => !endsAuthority kind c
  let after := text.dropWhile fun c => !endsAuthority kind c
  match splitLastAt whole with
  | none =>
    let (host, port, rest) ← parseHostPort scheme text
    return (⟨"", "", some host, port⟩, rest)
  | some (userinfo, hostPort) =>
    if userinfo.isEmpty ∧ hostPort.isEmpty ∧ !after.isEmpty then throw .emptyHost
    let username := userinfo.takeWhile (· ≠ ':')
    let password := (userinfo.dropWhile (· ≠ ':')).drop 1
    let (host, port, rest) ← parseHostPort scheme (hostPort ++ after)
    if host = .domain "" ∧ ¬(username.isEmpty ∧ password.isEmpty) then throw .emptyHost
    let encode (part : List Char) := String.ofList (Text.Percent.encode inUserinfoSet part)
    return (⟨encode username, encode password, some host, port⟩, rest)

/-! ### Query and fragment -/

/-- Splits a text into what stands before a query or fragment, the query and the fragment, each
percent-encoded. -/
def splitTail (kind : SchemeKind) (text : List Char) :
    List Char × Option String × Option String :=
  let path := text.takeWhile fun c => c ≠ '?' ∧ c ≠ '#'
  let encodeQuery (query : List Char) :=
    String.ofList (Text.Percent.encode (UrlPath.inQuerySet kind.isSpecial) query)
  let encodeFragment (fragment : List Char) :=
    String.ofList (Text.Percent.encode UrlPath.inFragmentSet fragment)
  match text.drop path.length with
  | '?' :: rest =>
    let query := rest.takeWhile (· ≠ '#')
    match rest.drop query.length with
    | _ :: fragment => (path, some (encodeQuery query), some (encodeFragment fragment))
    | [] => (path, some (encodeQuery query), none)
  | _ :: fragment => (path, none, some (encodeFragment fragment))
  | [] => (path, none, none)

/-- A URL of a scheme and authority whose path, query and fragment are a text. -/
def withText (scheme : String) (authority : Authority) (text : List Char) : Url :=
  let kind := SchemeKind.ofScheme scheme
  let (path, query, fragment) := splitTail kind text
  ⟨scheme, authority.username, authority.password, authority.host, authority.port,
    .segments (UrlPath.ofText kind path), query, fragment⟩

/-- A URL after the two slashes of its authority. -/
def afterSlashes (scheme : String) (text : List Char) : Except UrlError Url := do
  let (authority, rest) ← parseAuthority scheme text
  return withText scheme authority rest

/-- A URL of a scheme that is neither special nor `file`, after its colon. -/
def parseOther (scheme : String) (text : List Char) : Except UrlError Url :=
  match text with
  | '/' :: '/' :: rest => afterSlashes scheme rest
  | '/' :: _ => .ok (withText scheme .none text)
  | _ =>
    let (path, query, fragment) := splitTail .other text
    let path := String.ofList (Text.Percent.encode UrlPath.isControl path)
    .ok ⟨scheme, "", "", none, none, .rootless path, query, fragment⟩

/-! ### File URLs -/

/-- The authority of a `file` URL without a host. -/
def Authority.local : Authority := ⟨"", "", some (.domain ""), .none⟩

/-- Whether a text starts with a drive letter that is a whole segment. -/
def startsWithDrive : List Char → Bool
  | letter :: mark :: rest =>
    UrlPath.isDriveLetter [letter, mark] && rest.head?.all fun c => endsAuthority .file c
  | _ => false

/-- A `file` URL after its two slashes. A host before a drive letter is dropped. -/
def parseFileHost (text : List Char) : Except UrlError Url := do
  let hostText := text.takeWhile fun c => !endsAuthority .file c
  let rest := text.drop hostText.length
  if UrlPath.isDriveLetter hostText then return withText "file" .local text
  if hostText.isEmpty then return withText "file" .local rest
  let host ← Host.parseSpecial hostText
  let host := if host = .domain "localhost" then .domain "" else host
  let host := if startsWithDrive (rest.drop 1) then .domain "" else host
  return withText "file" ⟨"", "", some host, none⟩ rest

/-- A `file` URL after its colon, without regard to a base. -/
def parseFile (text : List Char) : Except UrlError Url :=
  match text with
  | a :: b :: rest =>
    if UrlPath.isSlash .file a ∧ UrlPath.isSlash .file b then parseFileHost rest
    else .ok (withText "file" .local text)
  | _ => .ok (withText "file" .local text)

/-! ### Relative references -/

/-- The authority of a URL. -/
def authorityOf (url : Url) : Authority := ⟨url.username, url.password, url.host, url.port⟩

/-- The segments of a URL that can be a base. -/
def segmentsOf (url : Url) : List String :=
  match url.path with
  | .segments segments => segments
  | .rootless _ => []

/-- A reference without a scheme, read relative to a base that has segments. -/
def parseRelative (base : Url) (text : List Char) : Except UrlError Url :=
  let kind := base.kind
  let slash := UrlPath.isSlash kind
  match text with
  | [] => .ok { base with fragment := none }
  | '?' :: _ =>
    let (_, query, fragment) := splitTail kind text
    .ok { base with query := query, fragment := fragment }
  | '#' :: _ => .ok { base with fragment := (splitTail kind text).2.2 }
  | c :: rest =>
    if slash c then
      if rest.head?.any slash then
        if kind = .file then parseFileHost (rest.drop 1)
        else if kind = .special then afterSlashes base.scheme (rest.dropWhile slash)
        else afterSlashes base.scheme (rest.drop 1)
      else .ok (withText base.scheme base.authorityOf text)
    else
      let (path, query, fragment) := splitTail kind text
      let segments := UrlPath.extend kind (UrlPath.shorten base.segmentsOf) path
      .ok { base with path := .segments segments, query := query, fragment := fragment }

/-! ### Whole URLs -/

/-- Whether a character can stand in a scheme after its first letter. -/
def inScheme (c : Char) : Bool := c.isAlphanum || c = '+' || c = '-' || c = '.'

/-- The scheme in lower case and what follows its colon. -/
def splitScheme (text : List Char) : Option (String × List Char) :=
  let scheme := text.takeWhile inScheme
  match text.drop scheme.length with
  | ':' :: rest =>
    if scheme.head?.any Char.isAlpha then some (String.ofList (scheme.map Char.toLower), rest)
    else none
  | _ => none

/-- The text without blanks and controls around it and without tabs and line breaks inside. -/
def clean (text : List Char) : List Char :=
  let isBlank (c : Char) : Bool := c.toNat ≤ 0x20
  let trimmed := ((text.dropWhile isBlank).reverse.dropWhile isBlank).reverse
  trimmed.filter fun c => c ≠ '\t' ∧ c ≠ '\n' ∧ c ≠ '\r'

/-- A URL after its scheme and colon, without regard to a base. -/
def parseAfterScheme (scheme : String) (text : List Char) : Except UrlError Url :=
  match SchemeKind.ofScheme scheme with
  | .file => parseFile text
  | .special => afterSlashes scheme (text.dropWhile (UrlPath.isSlash .special))
  | .other => parseOther scheme text

/-- Reads a URL. -/
def parse (text : String) : Except UrlError Url :=
  match splitScheme (clean text.toList) with
  | some (scheme, rest) => parseAfterScheme scheme rest
  | none => .error .relativeWithoutBase

/-- Reads a reference relative to a base. -/
def join (base : Url) (reference : String) : Except UrlError Url :=
  let text := clean reference.toList
  match splitScheme text with
  | some (scheme, rest) =>
    let slashes := (rest.takeWhile (UrlPath.isSlash base.kind)).length
    if scheme = base.scheme ∧ base.kind.isSpecial ∧ slashes < 2 then parseRelative base rest
    else parseAfterScheme scheme rest
  | none =>
    if text.head? = some '#' then .ok { base with fragment := (splitTail base.kind text).2.2 }
    else if base.canBeBase then parseRelative base text
    else .error .cannotBeBase

end Url

end Aggregation
