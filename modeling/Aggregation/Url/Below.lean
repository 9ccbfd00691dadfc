/-
**Request paths below a base URL.**

A backend's address may have a path of its own. A request path is appended to it: the base path
without its trailing slashes, one slash, and the request path without its leading ones. The text
after the first question mark becomes the query; nothing of the base's query or fragment is kept.
-/

import Aggregation.Url.Parser

namespace Aggregation.Url

/-- A path and a query split at the first question mark. -/
def splitQuery (target : List Char) : List Char × Option (List Char) :=
  let path := target.takeWhile (· ≠ '?')
  match target.drop path.length with
  | _ :: query => (path, some query)
  | [] => (path, none)

/-- The characters of a text that a URL takes notice of. -/
def withoutBreaks (text : List Char) : List Char :=
  text.filter fun c => c ≠ '\t' ∧ c ≠ '\n' ∧ c ≠ '\r'

/-- The text of the path below a base. -/
def pathBelow (base : Url) (path : List Char) : List Char :=
  (base.path.display.toList.reverse.dropWhile (· = '/')).reverse ++
    '/' :: path.dropWhile (· = '/')

/-- The URL of a path and query below a base. -/
def below (base : Url) (target : String) : Except UrlError Url :=
  match base.path with
  | .rootless _ => .error .cannotBeBase
  | .segments _ =>
    let (path, query) := splitQuery target.toList
    let encodeQuery (query : List Char) :=
      String.ofList (Text.Percent.encode (UrlPath.inQuerySet base.kind.isSpecial)
        (withoutBreaks query))
    .ok { base with
      path := .segments (UrlPath.ofText base.kind (withoutBreaks (base.pathBelow path)))
      query := query.map encodeQuery
      fragment := none }

end Aggregation.Url
