/-
**Armoured blocks.**

Certificates and keys are kept in texts. A block of such a text has a first line
`-----BEGIN label-----`, lines of base 64, and a last line `-----END label-----`; blanks at the end
of a line do not count. What stands outside of blocks is passed over. A block may be broken: its
content may not be base 64, or the text may end before the block does.
-/

import Aggregation.Bytes
import Aggregation.Text.Base64

namespace Aggregation

/-- The content of a block, and what it is said to be. -/
structure Armour where
  label : List Char
  content : Bytes
deriving DecidableEq

namespace Armour

/-- What stands at both ends of a first and of a last line. -/
def dashes : List Char := "-----".toList

/-- How a first line begins. -/
def opening : List Char := "-----BEGIN ".toList

/-- How a last line begins. -/
def closing : List Char := "-----END ".toList

/-- A line without the blanks at its end. -/
def trimmed (line : List Char) : List Char :=
  (line.reverse.dropWhile fun c => c = ' ' ∨ c = '\t' ∨ c = '\r').reverse

/-- The label of a first line. -/
def label? (line : List Char) : Option (List Char) :=
  if opening.isPrefixOf line then
    let rest := (line.drop opening.length).reverse
    if dashes.isPrefixOf rest then some (rest.drop dashes.length).reverse else none
  else none

/-- Whether a line ends the block of a label. -/
def closes (label line : List Char) : Bool := line == closing ++ label ++ dashes

/-- The block of a label and its lines, unless it is broken. -/
def ofContent? (label content : List Char) : Option Armour :=
  (Text.Base64.decode? content).map (Armour.mk label)

/-- Reads lines, with the label and the content of the block they begin in, if they begin in one. -/
def scan : Option (List Char × List Char) → List (List Char) → List (Option Armour)
  | none, [] => []
  | some _, [] => [none]
  | none, line :: rest => scan ((label? line).map fun label => (label, [])) rest
  | some (label, content), line :: rest =>
    if closes label line then ofContent? label content :: scan none rest
    else scan (some (label, content ++ line)) rest

/-- The blocks of a file, with nothing in the place of one that is broken. -/
def blocks (bytes : Bytes) : List (Option Armour) :=
  scan none (((bytes.map fun byte => Char.ofNat byte.toNat).splitOn '\n').map trimmed)

end Armour

end Aggregation
