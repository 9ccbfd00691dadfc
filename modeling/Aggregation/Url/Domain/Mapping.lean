/-
**Mapping characters of domain names.**

Before a domain name is looked at, each of its characters stays what it is, becomes a text, is
removed, or refuses the whole name. Letters of ASCII become small; all else is in a table.
-/

import Aggregation.Text.Ranges
import Aggregation.Url.Domain.Data

namespace Aggregation.Domain

/-- What becomes of the characters of a range. -/
inductive Change where
  | refused
  | removed
  | everySecond
  | shifted (first : Nat)
  | replaced (texts : List (List Char))

/-- The change that follows a range, by its sign. -/
def Change.ofText (sign : Char) (text : List Char) : Change :=
  match sign with
  | '~' => removed
  | '/' => everySecond
  | '>' => shifted (Text.digitsValue 16 text)
  | '=' => replaced ((text.splitOn ',').map fun written =>
      (written.splitOn '.').map fun code => Char.ofNat (Text.digitsValue 16 code))
  | _ => refused

/-- The entry that a word gives: its range, and what becomes of it. -/
def readEntry (word : List Char) : Text.CodeRange × Change :=
  let range := Text.CodeRange.ofWord (word.takeWhile fun c => c = '-' || Text.isDigit 16 c)
  match word.dropWhile fun c => c = '-' || Text.isDigit 16 c with
  | [] => (range, .refused)
  | sign :: rest =>
    match Change.ofText sign rest with
    | .replaced texts => (⟨range.first, range.first + texts.length - 1⟩, .replaced texts)
    | change => (range, change)

/-- The table of changes. -/
def mapping : List (Text.CodeRange × Change) := (Text.words mappingText).map readEntry

/-- What a change makes of a character, which is so far into its range. -/
def Change.apply (change : Change) (c : Char) (position : Nat) : Option (List Char) :=
  match change with
  | refused => none
  | removed => some []
  | everySecond => some [Char.ofNat (c.toNat + 1 - position % 2)]
  | shifted first => some [Char.ofNat (first + position)]
  | replaced texts => some (texts[position]?.getD [c])

/-- What becomes of a character; nothing if it refuses the name. -/
def mapChar? (c : Char) : Option (List Char) :=
  if c.toNat < 0x80 then some [c.toLower]
  else
    match mapping.find? fun entry => entry.1.has c with
    | none => some [c]
    | some (range, change) => change.apply c (c.toNat - range.first)

/-- What becomes of a text. -/
def mapText? (text : List Char) : Option (List Char) := (text.mapM mapChar?).map List.flatten

/-- Whether a character stays what it is. -/
def isKept (c : Char) : Bool := mapChar? c = some [c]

end Aggregation.Domain
