/-
**Rules for labels of domain names.**

A label with characters beyond ASCII has to keep three rules. It does not begin with a combining
mark. A joiner in it follows a mark that suppresses a vowel or, if it is the one that keeps
characters apart, stands between characters that would join. And if any label of the name is written
from right to left, every label keeps to one direction: it begins with a letter, ends with a letter
or a number of its direction, and holds nothing of the other.
-/

import Aggregation.Text.Composed
import Aggregation.Url.Domain.Classes

namespace Aggregation.Domain

/-! ### Marks and joiners -/

/-- The ranges of the combining marks. -/
def markRanges : List Text.CodeRange := Text.ranges markText

/-- Whether a character is a combining mark. -/
def isMark (c : Char) : Bool := markRanges.any fun range => range.has c

/-- The classes of characters by how they join. -/
def joiningTable : List (String × List Text.CodeRange) := Text.classes joiningText

/-- How a character joins. -/
def joiningOf? (c : Char) : Option String := Text.classOf? joiningTable c

/-- Whether the first of some characters that is not transparent joins in one of the given ways. -/
def meets (ways : List String) (text : List Char) : Bool :=
  match text.dropWhile fun c => joiningOf? c = some "T" with
  | [] => false
  | c :: _ => (joiningOf? c).any ways.contains

/-- The class of the marks that suppress a vowel. -/
def suppressingClass : Nat := 9

/-- The character that keeps its neighbours apart. -/
def nonJoiner : Nat := 0x200C

/-- The character that makes its neighbours join. -/
def joiner : Nat := 0x200D

/-- Whether a joiner may stand after some characters, the last one first, and before others. -/
def mayStand (c : Char) (before after : List Char) : Bool :=
  match before with
  | [] => false
  | last :: _ =>
    Text.Composed.combiningClass last = suppressingClass ||
      (c.toNat = nonJoiner && meets ["L", "D"] before && meets ["R", "D"] after)

/-- Whether the joiners of a text may stand where they do, given what stands before the text, the
last character first. -/
def joinersStand : List Char → List Char → Bool
  | _, [] => true
  | before, c :: rest =>
    (!(c.toNat = nonJoiner || c.toNat = joiner) || mayStand c before rest) &&
      joinersStand (c :: before) rest

/-! ### Directions -/

/-- The direction in which a character is written. -/
inductive Direction where
  | left
  | right
  | arabic
  | number
  | arabicNumber
  | mark
  /-- Takes the direction of what stands around it. -/
  | neutral
deriving DecidableEq

namespace Direction

/-- The direction that a class of the table stands for. -/
def ofName : String → Direction
  | "R" => right
  | "AL" => arabic
  | "AN" => arabicNumber
  | "EN" => number
  | "NSM" => mark
  | _ => neutral

/-- The classes of characters by direction. -/
def table : List (String × List Text.CodeRange) := Text.classes directionText

/-- The direction of a character. -/
def of (c : Char) : Direction :=
  if c.toNat < 0x80 then
    if c.isAlpha then left else if c.isDigit then number else neutral
  else ((Text.classOf? table c).map ofName).getD left

/-- Whether a character makes its name one that is written from right to left. -/
def isRight (direction : Direction) : Bool :=
  direction = right || direction = arabic || direction = arabicNumber

end Direction

/-- Whether the directions of a label that begins from the left fit together. -/
def fitsLeft (directions : List Direction) : Bool :=
  let ending := directions.reverse.dropWhile (· = .mark)
  directions.all (fun direction => !direction.isRight) &&
    match ending with
    | last :: _ => last = .left || last = .number
    | [] => false

/-- Whether the directions of a label that begins from the right fit together. -/
def fitsRight (directions : List Direction) : Bool :=
  let ending := directions.reverse.dropWhile (· = .mark)
  !directions.contains .left &&
    !(directions.contains .number && directions.contains .arabicNumber) &&
    match ending with
    | last :: _ => last.isRight || last = .number
    | [] => false

/-- Whether a label of a name that is written from right to left keeps to one direction. -/
def keepsDirection (label : List Char) : Bool :=
  match label.map Direction.of with
  | [] => true
  | .left :: rest => fitsLeft (.left :: rest)
  | .right :: rest => fitsRight (.right :: rest)
  | .arabic :: rest => fitsRight (.arabic :: rest)
  | _ => false

/-! ### Whole labels -/

/-- Whether a label is ASCII. -/
def isAscii (label : List Char) : Bool := label.all fun c => c.toNat < 0x80

/-- Whether a label keeps the rules for its marks and joiners. -/
def isSound (label : List Char) : Bool :=
  isAscii label || (!(label.head?.any isMark) && joinersStand [] label)

end Aggregation.Domain
