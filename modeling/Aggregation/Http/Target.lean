/-
**Request targets.**

The target of a request is a path with a query, a whole URL, an authority alone, or `*`. It is kept
as it was written: nothing is decoded or resolved. Characters that have to be percent-encoded are
refused, apart from the quote and the braces, which are taken in a path, and everything outside
ASCII.
-/

import Aggregation.Text.Utf8

namespace Aggregation.Http

/-- A target in the parts that routing and forwarding look at. -/
structure Target where
  /-- The path as it was written. -/
  path : String
  /-- The query as it was written. -/
  query : Option String
  /-- The path and query that are passed on. -/
  pathAndQuery : String
deriving DecidableEq

namespace Target

/-- Whether a character can stand in a path. -/
def inPath (c : Char) : Bool :=
  c = '!' || ('$' ≤ c && c ≤ ';') || c = '=' || ('@' ≤ c && c ≤ '_') || ('a' ≤ c && c ≤ 'z') ||
    c = '|' || c = '~' || c.toNat ≥ 0x7F || c = '"' || c = '\x7b' || c = '\x7d'

/-- Whether a character can stand in a query. -/
def inQuery (c : Char) : Bool :=
  c = '!' || ('$' ≤ c && c ≤ ';') || c = '=' || '?' ≤ c

/-- A path and a query without a fragment. -/
def parsePath? (text : List Char) : Option (List Char × Option (List Char)) :=
  let text := text.takeWhile (· ≠ '#')
  let path := text.takeWhile (· ≠ '?')
  if ¬path.all inPath then none
  else
    match text.drop path.length with
    | [] => some (path, none)
    | _ :: query => if query.all inQuery then some (path, some query) else none

/-- Whether a character other than a percent sign can stand in an authority. -/
def inAuthority (c : Char) : Bool :=
  c.isAlphanum || c ∈ ['!', '$', '&', '\x27', '(', ')', '*', '+', ',', '-', '.', ':', ';', '=', '@',
    '[', ']', '_', '~']

/-- What has been seen of an authority. -/
structure Seen where
  colons : Nat := 0
  opened : Bool := false
  closed : Bool := false
  percent : Bool := false

/-- Takes one character of an authority into account. -/
def Seen.next? (seen : Seen) (c : Char) : Option Seen :=
  if c = '%' then some { seen with percent := true }
  else if ¬inAuthority c then none
  else if c = ':' then
    if seen.colons ≥ 8 then none else some { seen with colons := seen.colons + 1 }
  else if c = '[' then
    if seen.percent ∨ seen.opened then none else some { seen with opened := true }
  else if c = ']' then
    if ¬seen.opened ∨ seen.closed then none
    else some { seen with closed := true, colons := 0, percent := false }
  else if c = '@' then some { seen with colons := 0, percent := false }
  else some seen

/-- Whether an authority is well formed: balanced brackets, at most one colon before a port, and
percent signs only before an `@` or between brackets. -/
def isAuthority (text : List Char) : Bool :=
  match text.foldlM Seen.next? {} with
  | none => false
  | some seen =>
    seen.opened == seen.closed && seen.colons ≤ 1 && !seen.percent && text.getLast? ≠ some '@'

/-- Whether a character can stand in a scheme. -/
def inScheme (c : Char) : Bool := c.isAlphanum || c = '+' || c = '-' || c = '.'

/-- What follows a scheme and its slashes. -/
def afterScheme? (text : List Char) : Option (List Char) :=
  let scheme := text.takeWhile inScheme
  match text.drop scheme.length with
  | ':' :: '/' :: '/' :: rest => if scheme.length ≤ 64 then some rest else none
  | _ => none

/-- The target of a path and query. -/
def ofPath (path : List Char) (query : Option (List Char)) : Target :=
  let whole := path ++ query.elim [] ('?' :: ·)
  { path := String.ofList (if path.isEmpty then ['/'] else path)
    query := query.map String.ofList
    pathAndQuery := String.ofList (if whole.isEmpty then ['/'] else whole) }

/-- The number of bytes that a target can have. -/
def lengthLimit : Nat := 65534

/-- The target written by a text. -/
def parse? (text : String) : Option Target :=
  let chars := text.toList
  if text.utf8ByteSize > lengthLimit then none
  else
    match chars with
    | [] => none
    | ['*'] => some ⟨"*", none, "*"⟩
    | '/' :: _ => (parsePath? chars).map fun (path, query) => ofPath path query
    | _ =>
      match if chars.length > 3 then afterScheme? chars else none with
      | none =>
        if chars.all (fun c => c ∉ ['/', '?', '#']) ∧ isAuthority chars then some ⟨"", none, "/"⟩
        else none
      | some rest =>
        let authority := rest.takeWhile fun c => c ∉ ['/', '?', '#']
        if authority.isEmpty ∨ ¬isAuthority authority then none
        else
          (parsePath? (rest.drop authority.length)).map fun (path, query) => ofPath path query

end Target

end Aggregation.Http
