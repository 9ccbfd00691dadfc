/-
**URLs.**

A `Url` is kept in its parts, each already in its written form. The path is a list of segments
below a root, or, for schemes such as `data`, a text without a root; only a URL with segments can
be a base for others. `Url.display` writes the parts out:

* a default port is never kept and so never written;
* a path that would read as a host because it starts with an empty segment is led by `/.`.
-/

import Aggregation.Net.Ipv4
import Aggregation.Net.Ipv6

namespace Aggregation

/-- What the authority of a URL names. -/
inductive Host where
  | domain (name : String)
  | ipv4 (address : Net.Ipv4)
  | ipv6 (address : Net.Ipv6)
deriving DecidableEq

namespace Host

/-- The written form. -/
def display : Host → String
  | domain name => name
  | ipv4 address => address.display
  | ipv6 address => "[" ++ address.display ++ "]"

end Host

/-- How a scheme treats authorities and paths. -/
inductive SchemeKind where
  | file
  | special
  | other
deriving DecidableEq

namespace SchemeKind

/-- The kind of a scheme in lower case. -/
def ofScheme (scheme : String) : SchemeKind :=
  if scheme = "file" then file
  else if scheme ∈ ["http", "https", "ws", "wss", "ftp"] then special
  else other

/-- Whether a backslash is read as a slash and a path always has a root. -/
def isSpecial : SchemeKind → Bool
  | other => false
  | _ => true

end SchemeKind

/-- The port that a scheme implies. -/
def defaultPort? (scheme : String) : Option Nat :=
  if scheme = "http" ∨ scheme = "ws" then some 80
  else if scheme = "https" ∨ scheme = "wss" then some 443
  else if scheme = "ftp" then some 21
  else none

/-- The path of a URL. -/
inductive UrlPath where
  | segments (segments : List String)
  | rootless (text : String)
deriving DecidableEq

namespace UrlPath

/-- The written form: each segment is led by a slash. -/
def display : UrlPath → String
  | segments parts => "".intercalate (parts.map fun part => "/" ++ part)
  | rootless text => text

/-- Whether the path starts with an empty segment that is not its only one. -/
def startsEmpty : UrlPath → Bool
  | segments ("" :: _ :: _) => true
  | _ => false

end UrlPath

/-- A URL in its parts; an absent username or password is empty. -/
structure Url where
  scheme : String
  username : String
  password : String
  host : Option Host
  port : Option Nat
  path : UrlPath
  query : Option String
  fragment : Option String
deriving DecidableEq

namespace Url

/-- The kind of the URL's scheme. -/
def kind (url : Url) : SchemeKind := SchemeKind.ofScheme url.scheme

/-- Whether other URLs can be read relative to this one. -/
def canBeBase (url : Url) : Bool :=
  match url.path with
  | .segments _ => true
  | .rootless _ => false

/-- The username and password as they stand before the host. -/
def credentials (url : Url) : String :=
  if url.username = "" ∧ url.password = "" then ""
  else url.username ++ (if url.password = "" then "" else ":" ++ url.password) ++ "@"

/-- The port as it stands after the host. -/
def portText (url : Url) : String := url.port.elim "" fun port => ":" ++ toString port

/-- Everything between the scheme's colon and the path. -/
def authority (url : Url) : String :=
  match url.host with
  | some host => "//" ++ url.credentials ++ host.display ++ url.portText
  | none => if url.path.startsEmpty then "/." else ""

/-- The query and the fragment with their marks. -/
def tail (url : Url) : String :=
  url.query.elim "" ("?" ++ ·) ++ url.fragment.elim "" ("#" ++ ·)

/-- The written form of a URL. -/
def display (url : Url) : String :=
  url.scheme ++ ":" ++ url.authority ++ url.path.display ++ url.tail

/-- The URL without its username and password. -/
def withoutCredentials (url : Url) : Url := { url with username := "", password := "" }

end Url

end Aggregation
