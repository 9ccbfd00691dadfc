/-
**Form-encoded queries.**

A query is a list of `name=value` pairs joined by ampersands. A plus sign is a blank, triplets are
decoded, and bytes that are not text are replaced; an empty piece between ampersands is no pair.
-/

import Aggregation.Text.Percent

namespace Aggregation.Text.Form

/-- A name or a value. -/
def decodePiece (piece : List Char) : String :=
  String.ofList (Utf8.decodeLossy (Percent.decode (piece.map fun c => if c = '+' then ' ' else c)))

/-- A pair; without an equals sign the value is empty. -/
def pair (piece : List Char) : String × String :=
  (decodePiece (piece.takeWhile (· ≠ '=')), decodePiece ((piece.dropWhile (· ≠ '=')).drop 1))

/-- The pairs of a query in their order. -/
def pairs (query : String) : List (String × String) :=
  ((query.toList.splitOn '&').filter fun piece => !piece.isEmpty).map pair

end Aggregation.Text.Form
