/-
**Composed texts.**

One character may stand for a character and its marks. `compose` takes every such character apart,
puts the marks after each character into the order of their classes, and joins again what can be
joined, so that texts that look the same become the same. A mark is joined with the character
before it unless a mark of its own class, or a higher one, stands between them. Syllables of three
parts are computed: the first two parts are joined, and then the third.
-/

import Aggregation.Text.Composed.Data
import Aggregation.Text.Ranges

namespace Aggregation.Text.Composed

/-! ### The tables -/

/-- The classes of marks. -/
def classTable : List (String × List CodeRange) := classes classText

/-- The combining class of a character; zero if it does not combine. -/
def combiningClass (c : Char) : Nat :=
  if c.toNat < 0x300 then 0
  else ((classOf? classTable c).map fun name => digitsValue 10 name.toList).getD 0

/-- The characters that a word gives, separated by dots. -/
def readParts (word : List Char) : List Char :=
  (word.splitOn '.').map fun part => Char.ofNat (digitsValue 16 part)

/-- The composites of one run, from a given code point on. -/
def readRun : Nat → List (List Char) → List (Char × Char × Char)
  | _, [] => []
  | code, word :: rest =>
    match readParts word with
    | [first, second] => (Char.ofNat code, first, second) :: readRun (code + 1) rest
    | _ => readRun (code + 1) rest

/-- The composites that a word gives. -/
def readWord (word : List Char) : List (Char × Char × Char) :=
  match word.splitOn '=' with
  | [first, parts] => readRun (digitsValue 16 first) (parts.splitOn ',')
  | _ => []

/-- The composites with their parts. -/
def composites : List (Char × Char × Char) := (words compositeText).flatMap readWord

/-! ### Syllables -/

/-- The number of middle parts of a syllable. -/
def middles : Nat := 21

/-- The number of last parts of a syllable, no part being one of them. -/
def lasts : Nat := 28

/-- The first of the syllables. -/
def firstSyllable : Nat := 0xAC00

/-- The number of syllables. -/
def syllables : Nat := 19 * middles * lasts

/-- The two parts of a syllable. -/
def syllableParts? (c : Char) : Option (Char × Char) :=
  let index := c.toNat - firstSyllable
  if c.toNat < firstSyllable ∨ syllables ≤ index then none
  else if index % lasts = 0 then
    let pair := index / lasts
    some (Char.ofNat (0x1100 + pair / middles), Char.ofNat (0x1161 + pair % middles))
  else some (Char.ofNat (c.toNat - index % lasts), Char.ofNat (0x11A7 + index % lasts))

/-- The syllable that two characters make up. -/
def syllable? (a b : Char) : Option Char :=
  let first := a.toNat - 0x1100
  let middle := b.toNat - 0x1161
  let index := a.toNat - firstSyllable
  let last := b.toNat - 0x11A7
  if 0x1100 ≤ a.toNat ∧ first < 19 ∧ 0x1161 ≤ b.toNat ∧ middle < middles then
    some (Char.ofNat (firstSyllable + (first * middles + middle) * lasts))
  else if firstSyllable ≤ a.toNat ∧ index < syllables ∧ index % lasts = 0 ∧ 0x11A7 < b.toNat ∧
      last < lasts then
    some (Char.ofNat (a.toNat + last))
  else none

/-! ### Taking apart and joining -/

/-- The two parts of a character that stands for two. -/
def parts? (c : Char) : Option (Char × Char) :=
  (syllableParts? c).or
    ((composites.find? fun entry => entry.1 = c).map fun entry => (entry.2.1, entry.2.2))

/-- The character that stands for two. -/
def join? (a b : Char) : Option Char :=
  (syllable? a b).or
    ((composites.find? fun entry => entry.2.1 = a ∧ entry.2.2 = b).map fun entry => entry.1)

/-- The number of marks that one character stands for at most. -/
def depth : Nat := 4

/-- A character taken apart, so many times at most. -/
def takeApart : Nat → Char → List Char
  | 0, c => [c]
  | fuel + 1, c =>
    if c.toNat < 0xC0 then [c]
    else
      match parts? c with
      | none => [c]
      | some (first, second) => takeApart fuel first ++ [second]

/-- Puts a character after those before it, the last one first, with marks in the order of their
classes. -/
def place (c : Char) : List Char → List Char
  | [] => [c]
  | last :: rest =>
    if 0 < combiningClass c ∧ combiningClass c < combiningClass last then last :: place c rest
    else c :: last :: rest

/-- A text taken apart, with its marks in order. -/
def decompose (text : List Char) : List Char :=
  ((text.flatMap (takeApart depth)).foldl (fun placed c => place c placed) []).reverse

/-- A text on the way to being joined: what is done, the last character first, then a character, and
the marks after it that could not be joined with it, the last one first. -/
structure Joining where
  done : List Char
  base : Option Char
  marks : List Char

namespace Joining

/-- All that was read, the last character first. -/
def all (joining : Joining) : List Char := joining.marks ++ joining.base.toList ++ joining.done

/-- Whether a character cannot be joined with one of the given marks between. -/
def isBlocked (c : Char) : List Char → Bool
  | [] => false
  | mark :: _ => combiningClass c ≤ combiningClass mark

/-- Reads one more character. -/
def read (joining : Joining) (c : Char) : Joining :=
  let joined := joining.base.bind fun base =>
    if isBlocked c joining.marks then none else join? base c
  match joined with
  | some composite => { joining with base := some composite }
  | none =>
    if combiningClass c = 0 then ⟨joining.all, some c, []⟩
    else { joining with marks := c :: joining.marks }

end Joining

/-- The composed form of a text. -/
def compose (text : List Char) : List Char :=
  if text.all fun c => c.toNat < 0xC0 then text
  else ((decompose text).foldl Joining.read ⟨[], none, []⟩).all.reverse

end Aggregation.Text.Composed
