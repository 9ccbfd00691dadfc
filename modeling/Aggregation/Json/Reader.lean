/-
**Reading JSON text.**

`Json.parse?` reads one value surrounded by blanks and refuses everything else. Integers without
fraction and exponent are integers; every other number is kept as its text. An escaped pair of
surrogates is one character; a lone surrogate is refused.
-/

import Aggregation.Json.Basic
import Aggregation.Text.Digits

namespace Aggregation.Json

/-! ### Tokens -/

/-- Whether a character may stand between tokens. -/
def isBlank (c : Char) : Bool := c = ' ' || c = '\t' || c = '\n' || c = '\r'

/-- The text after leading blanks. -/
def skipBlanks (text : List Char) : List Char := text.dropWhile isBlank

/-- Four hexadecimal digits. -/
def codeUnit? : List Char → Option (Nat × List Char)
  | a :: b :: c :: d :: rest => do
    let a ← Text.digitValue? 16 a
    let b ← Text.digitValue? 16 b
    let c ← Text.digitValue? 16 c
    let d ← Text.digitValue? 16 d
    pure (((a * 16 + b) * 16 + c) * 16 + d, rest)
  | _ => none

/-- The character of an escape after its `\u`. -/
def escapedUnit? (text : List Char) : Option (Char × List Char) := do
  let (unit, rest) ← codeUnit? text
  if 0xD800 ≤ unit ∧ unit < 0xDC00 then
    match rest with
    | '\\' :: 'u' :: rest =>
      let (low, rest) ← codeUnit? rest
      if 0xDC00 ≤ low ∧ low < 0xE000 then
        pure (Char.ofNat (0x10000 + (unit - 0xD800) * 0x400 + (low - 0xDC00)), rest)
      else none
    | _ => none
  else if 0xDC00 ≤ unit ∧ unit < 0xE000 then none
  else pure (Char.ofNat unit, rest)

/-- The characters up to the closing quote, with at most `fuel` steps. -/
def stringTail? : Nat → List Char → List Char → Option (String × List Char)
  | 0, _, _ => none
  | _ + 1, _, [] => none
  | fuel + 1, read, c :: rest =>
    if c = '"' then some (String.ofList read.reverse, rest)
    else if c = '\\' then
      match rest with
      | '"' :: rest => stringTail? fuel ('"' :: read) rest
      | '\\' :: rest => stringTail? fuel ('\\' :: read) rest
      | '/' :: rest => stringTail? fuel ('/' :: read) rest
      | 'b' :: rest => stringTail? fuel ('\x08' :: read) rest
      | 'f' :: rest => stringTail? fuel ('\x0c' :: read) rest
      | 'n' :: rest => stringTail? fuel ('\n' :: read) rest
      | 'r' :: rest => stringTail? fuel ('\r' :: read) rest
      | 't' :: rest => stringTail? fuel ('\t' :: read) rest
      | 'u' :: rest =>
        match escapedUnit? rest with
        | some (c, rest) => stringTail? fuel (c :: read) rest
        | none => none
      | _ => none
    else if c.toNat < 32 then none
    else stringTail? fuel (c :: read) rest

/-- A quoted text after its opening quote. -/
def stringAfterQuote? (text : List Char) : Option (String × List Char) :=
  stringTail? (text.length + 1) [] text

/-- A fraction and an exponent, either of which may be empty. -/
def fractionExponent? (text : List Char) : Option (List Char × List Char) := do
  let (fraction, rest) ← match text with
    | '.' :: rest =>
      let digits := rest.takeWhile Char.isDigit
      if digits.isEmpty then none else some ('.' :: digits, rest.dropWhile Char.isDigit)
    | _ => some ([], text)
  match rest with
  | e :: after =>
    if e = 'e' ∨ e = 'E' then
      let (sign, after) : List Char × List Char := match after with
        | '+' :: after => (['+'], after)
        | '-' :: after => (['-'], after)
        | _ => ([], after)
      let digits := after.takeWhile Char.isDigit
      if digits.isEmpty then none
      else some (fraction ++ e :: sign ++ digits, after.dropWhile Char.isDigit)
    else some (fraction, rest)
  | [] => some (fraction, rest)

/-- A number. -/
def number? (text : List Char) : Option (Json × List Char) := do
  let (negative, unsigned) : Bool × List Char := match text with
    | '-' :: rest => (true, rest)
    | _ => (false, text)
  let digits := unsigned.takeWhile Char.isDigit
  let rest := unsigned.dropWhile Char.isDigit
  if digits.isEmpty then none
  else if digits.head? = some '0' ∧ digits.length ≠ 1 then none
  else
    let (tail, rest) ← fractionExponent? rest
    let value := Text.digitsValue 10 digits
    let sign : List Char := if negative then ['-'] else []
    let written := String.ofList (sign ++ digits ++ tail)
    if ¬tail.isEmpty ∨ (negative ∧ value = 0) then some (real written, rest)
    else some (int (if negative then -(value : Int) else value), rest)

/-! ### Values -/

/-- Adds a member, the later value of a repeated name replacing the earlier one. -/
def putMember (members : List (String × Json)) (name : String) (value : Json) :
    List (String × Json) :=
  if members.any fun entry => entry.1 == name then
    members.map fun entry => if entry.1 = name then (name, value) else entry
  else members ++ [(name, value)]

mutual

/-- A value with at most `fuel` nested steps. -/
def value? : Nat → List Char → Option (Json × List Char)
  | 0, _ => none
  | fuel + 1, text =>
    match skipBlanks text with
    | 'n' :: 'u' :: 'l' :: 'l' :: rest => some (null, rest)
    | 't' :: 'r' :: 'u' :: 'e' :: rest => some (bool true, rest)
    | 'f' :: 'a' :: 'l' :: 's' :: 'e' :: rest => some (bool false, rest)
    | '"' :: rest => (stringAfterQuote? rest).map fun (text, rest) => (string text, rest)
    | '[' :: rest =>
      match skipBlanks rest with
      | ']' :: rest => some (array [], rest)
      | _ => items? fuel [] rest
    | '\x7b' :: rest =>
      match skipBlanks rest with
      | '\x7d' :: rest => some (object [], rest)
      | _ => members? fuel [] rest
    | text => number? text

/-- The items of an array after those already read. -/
def items? : Nat → List Json → List Char → Option (Json × List Char)
  | 0, _, _ => none
  | fuel + 1, read, text =>
    match value? fuel text with
    | none => none
    | some (item, rest) =>
      match skipBlanks rest with
      | ',' :: rest => items? fuel (item :: read) rest
      | ']' :: rest => some (array (item :: read).reverse, rest)
      | _ => none

/-- The members of an object after those already read. -/
def members? : Nat → List (String × Json) → List Char → Option (Json × List Char)
  | 0, _, _ => none
  | fuel + 1, read, text =>
    match skipBlanks text with
    | '"' :: rest =>
      match stringAfterQuote? rest with
      | none => none
      | some (name, rest) =>
        match skipBlanks rest with
        | ':' :: rest =>
          match value? fuel rest with
          | none => none
          | some (value, rest) =>
            match skipBlanks rest with
            | ',' :: rest => members? fuel (putMember read name value) rest
            | '\x7d' :: rest => some (object (putMember read name value), rest)
            | _ => none
        | _ => none
    | _ => none

end

/-- The value written by a text. -/
def parse? (text : String) : Option Json :=
  let text := text.toList
  match value? (2 * text.length + 2) text with
  | some (value, rest) => if (skipBlanks rest).isEmpty then some value else none
  | none => none

end Aggregation.Json
