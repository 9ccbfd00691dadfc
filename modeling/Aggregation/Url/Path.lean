/-
**Reading the path of a URL.**

The text after the root is cut at slashes, each piece is percent-encoded, and dot pieces are
resolved on the way: `.` stands for nothing and `..` takes the last segment back, also when a dot is
written as `%2e`. A piece at the very end that is a dot piece leaves an empty segment. In `file`
URLs the first segment may be a drive letter, which ends in a colon and is never taken back.
-/

import Aggregation.Text.Percent
import Aggregation.Url.Basic

namespace Aggregation.UrlPath

/-! ### Percent-encoding sets -/

/-- The control characters of ASCII. -/
def isControl (c : Char) : Bool := c.toNat < 0x20 || c = '\x7f'

/-- What a fragment cannot hold. -/
def inFragmentSet (c : Char) : Bool :=
  isControl c || c = ' ' || c = '"' || c = '<' || c = '>' || c = '\x60'

/-- What a path segment cannot hold. -/
def inPathSet (c : Char) : Bool :=
  inFragmentSet c || c = '#' || c = '?' || c = '\x7b' || c = '\x7d'

/-- What a query cannot hold; special schemes also encode the apostrophe. -/
def inQuerySet (special : Bool) (c : Char) : Bool :=
  isControl c || c = ' ' || c = '"' || c = '#' || c = '<' || c = '>' || (special && c = '\x27')

/-! ### Segments -/

/-- Whether a piece stands for nothing. -/
def isDot (piece : List Char) : Bool :=
  String.ofList (piece.map Char.toLower) ∈ [".", "%2e"]

/-- Whether a piece takes the last segment back. -/
def isDoubleDot (piece : List Char) : Bool :=
  String.ofList (piece.map Char.toLower) ∈ ["..", ".%2e", "%2e.", "%2e%2e"]

/-- Whether a piece is a letter followed by a colon or a bar. -/
def isDriveLetter : List Char → Bool
  | [letter, mark] => letter.isAlpha && (mark = ':' || mark = '|')
  | _ => false

/-- The segments with the last one taken back; a drive letter stays. -/
def shorten (segments : List String) : List String :=
  match segments.getLast? with
  | none => []
  | some last => if isDriveLetter last.toList then segments else segments.dropLast

/-- Adds one piece to the segments; `last` says that no slash follows it. -/
def add (kind : SchemeKind) (last : Bool) (segments : List String) (piece : List Char) :
    List String :=
  let piece := Text.Percent.encode inPathSet piece
  if isDoubleDot piece then if last then shorten segments ++ [""] else shorten segments
  else if isDot piece then if last then segments ++ [""] else segments
  else if kind = .file ∧ segments = [] then
    match piece with
    | [letter, mark] =>
      if isDriveLetter piece then [String.ofList [letter, ':']]
      else [String.ofList [letter, mark]]
    | letter :: ':' :: rest =>
      if letter.isAlpha then [String.ofList [letter, ':'], String.ofList rest]
      else [String.ofList piece]
    | _ => [String.ofList piece]
  else segments ++ [String.ofList piece]

/-- Adds pieces to the segments in their order. -/
def addAll (kind : SchemeKind) (segments : List String) : List (List Char) → List String
  | [] => segments
  | [piece] => add kind true segments piece
  | piece :: rest => addAll kind (add kind false segments piece) rest

/-- Whether a character separates the pieces of a path. -/
def isSlash (kind : SchemeKind) (c : Char) : Bool := c = '/' || (kind.isSpecial && c = '\\')

/-- The pieces of a text. -/
def pieces (kind : SchemeKind) (text : List Char) : List (List Char) :=
  text.splitOnP (isSlash kind)

/-- The segments without empty ones at the start, of which one is kept if nothing else is left. -/
def trimStart (segments : List String) : List String :=
  match segments.dropWhile (· = "") with
  | [] => [""]
  | rest => rest

/-- The segments that a text adds to others; `file` URLs have no empty segments at the start. -/
def extend (kind : SchemeKind) (segments : List String) (text : List Char) : List String :=
  let segments := addAll kind segments (pieces kind text)
  if kind = .file then trimStart segments else segments

/-- The segments of a text that may start with the slash of the root. Without a text, only special
schemes have a root. -/
def ofText (kind : SchemeKind) (text : List Char) : List String :=
  match text with
  | [] => if kind.isSpecial then [""] else []
  | c :: rest => if isSlash kind c then extend kind [] rest else extend kind [] (c :: rest)

end Aggregation.UrlPath
