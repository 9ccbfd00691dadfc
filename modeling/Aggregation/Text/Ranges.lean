/-
**Tables of ranges.**

A table of characters is a text of words. A word that ends in a colon names a class; the words after
it are the ranges of the class, in hexadecimal: `41-5A`, or `5F` for a single character.
-/

import Aggregation.Text.Digits

namespace Aggregation.Text

/-- The words of a text. -/
def words (text : String) : List (List Char) :=
  (text.toList.splitOnP fun c => c = ' ' || c = '\n').filter fun word => !word.isEmpty

/-- A range of code points, both ends included. -/
structure CodeRange where
  first : Nat
  last : Nat

namespace CodeRange

/-- The range that a word gives. -/
def ofWord (word : List Char) : CodeRange :=
  match word.splitOn '-' with
  | [first, last] => ⟨digitsValue 16 first, digitsValue 16 last⟩
  | _ => ⟨digitsValue 16 word, digitsValue 16 word⟩

/-- Whether a character is in a range. -/
def has (range : CodeRange) (c : Char) : Bool := range.first ≤ c.toNat && c.toNat ≤ range.last

end CodeRange

/-- The ranges of a text without classes. -/
def ranges (text : String) : List CodeRange := (words text).map CodeRange.ofWord

/-- Adds a word to the classes read so far, the last one first. -/
def addWord (classes : List (String × List CodeRange)) (word : List Char) :
    List (String × List CodeRange) :=
  match word.getLast?, classes with
  | some ':', classes => (String.ofList word.dropLast, []) :: classes
  | _, [] => []
  | _, (name, ranges) :: rest => (name, CodeRange.ofWord word :: ranges) :: rest

/-- The classes of a text, each with its ranges. -/
def classes (text : String) : List (String × List CodeRange) := (words text).foldl addWord []

/-- The class of a character. -/
def classOf? (classes : List (String × List CodeRange)) (c : Char) : Option String :=
  (classes.find? fun entry => entry.2.any fun range => range.has c).map Prod.fst

end Aggregation.Text
