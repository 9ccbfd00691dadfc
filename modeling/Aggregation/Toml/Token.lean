/-
**Tokens of a TOML document.**

Readers of blanks, comments, line ends, keys, strings, numbers and dates. Each takes the text that
is left and gives what it read with what follows, or nothing if the text is malformed. Of controls
only the tab is allowed, also in comments.
-/

import Aggregation.Json.Basic
import Aggregation.Text.Digits

namespace Aggregation.Toml

/-! ### Blanks, comments and line ends -/

/-- Whether a character is a blank inside a line. -/
def isBlank (c : Char) : Bool := c = ' ' || c = '\t'

/-- What follows the blanks. -/
def skipBlanks (text : List Char) : List Char := text.dropWhile isBlank

/-- Whether a character can stand in a line. -/
def isPlain (c : Char) : Bool := c = '\t' || (c.toNat ≥ 0x20 && c ≠ '\x7f')

/-- What follows a line break. -/
def lineBreak? : List Char → Option (List Char)
  | '\n' :: rest => some rest
  | '\r' :: '\n' :: rest => some rest
  | _ => none

/-- What follows a comment, if there is one. -/
def skipComment : List Char → List Char
  | '#' :: rest => rest.dropWhile isPlain
  | text => text

/-- What follows blanks, a comment and the end of the line or document. -/
def endLine? (text : List Char) : Option (List Char) :=
  match skipComment (skipBlanks text) with
  | [] => some []
  | rest => lineBreak? rest

/-- What follows blanks, comments and line breaks; a comment has to end in a line break. -/
def skipLines : Nat → List Char → Option (List Char)
  | 0, _ => none
  | fuel + 1, text =>
    let rest := skipBlanks text
    match rest with
    | '#' :: _ => lineBreak? (skipComment rest) >>= skipLines fuel
    | _ =>
      match lineBreak? rest with
      | some rest => skipLines fuel rest
      | none => some rest

/-! ### Strings -/

/-- The character of a number of hexadecimal digits. -/
def scalar? (digits : Nat) (text : List Char) : Option (Char × List Char) :=
  let written := text.take digits
  if written.length = digits then do
    let value ← Text.number? 16 written
    if value < 0xD800 ∨ (0xE000 ≤ value ∧ value ≤ 0x10FFFF) then
      some (Char.ofNat value, text.drop digits)
    else none
  else none

/-- The character of an escape after its backslash. -/
def escape? : List Char → Option (Char × List Char)
  | 'b' :: rest => some ('\x08', rest)
  | 't' :: rest => some ('\t', rest)
  | 'n' :: rest => some ('\n', rest)
  | 'f' :: rest => some ('\x0c', rest)
  | 'r' :: rest => some ('\r', rest)
  | '"' :: rest => some ('"', rest)
  | '\\' :: rest => some ('\\', rest)
  | 'u' :: rest => scalar? 4 rest
  | 'U' :: rest => scalar? 8 rest
  | _ => none

/-- A string on one line after its opening mark; only double quotes allow escapes. -/
def lineString? (mark : Char) : Nat → List Char → List Char → Option (String × List Char)
  | 0, _, _ => none
  | _ + 1, _, [] => none
  | fuel + 1, read, c :: rest =>
    if c = mark then some (String.ofList read.reverse, rest)
    else if c = '\\' ∧ mark = '"' then
      match escape? rest with
      | some (c, rest) => lineString? mark fuel (c :: read) rest
      | none => none
    else if isPlain c then lineString? mark fuel (c :: read) rest
    else none

/-- What follows a line break that is escaped, with all blanks and line breaks after it. -/
def escapedBreak? (text : List Char) : Option (List Char) :=
  (lineBreak? (skipBlanks text)).map go
where
  /-- What follows blanks and line breaks. -/
  go : List Char → List Char
    | '\r' :: '\n' :: rest => go rest
    | c :: rest => if isBlank c || c = '\n' then go rest else c :: rest
    | [] => []

/-- A string over several lines after its opening marks. Up to two marks can stand before the
closing three. -/
def linesString? (mark : Char) : Nat → List Char → List Char → Option (String × List Char)
  | 0, _, _ => none
  | _ + 1, _, [] => none
  | fuel + 1, read, c :: rest =>
    if c = mark then
      let marks := ((c :: rest).takeWhile (· = mark)).length
      if marks < 3 then
        linesString? mark fuel (List.replicate marks mark ++ read) ((c :: rest).drop marks)
      else
        let kept := min (marks - 3) 2
        some (String.ofList (List.replicate kept mark ++ read).reverse,
          (c :: rest).drop (kept + 3))
    else if c = '\\' ∧ mark = '"' then
      match escapedBreak? rest with
      | some rest => linesString? mark fuel read rest
      | none =>
        match escape? rest with
        | some (c, rest) => linesString? mark fuel (c :: read) rest
        | none => none
    else
      match lineBreak? (c :: rest) with
      | some rest => linesString? mark fuel ('\n' :: read) rest
      | none => if isPlain c then linesString? mark fuel (c :: read) rest else none

/-- A string of any kind. -/
def string? (text : List Char) : Option (String × List Char) :=
  match text with
  | mark :: rest =>
    if mark ≠ '"' ∧ mark ≠ '\x27' then none
    else
      match rest with
      | second :: third :: body =>
        if second = mark ∧ third = mark then
          linesString? mark (body.length + 1) [] ((lineBreak? body).getD body)
        else lineString? mark (rest.length + 1) [] rest
      | _ => lineString? mark (rest.length + 1) [] rest
  | [] => none

/-! ### Keys -/

/-- Whether a character can stand in a key without quotes. -/
def inBareKey (c : Char) : Bool := c.isAlphanum || c = '_' || c = '-'

/-- A key without points, quoted on one line or bare. -/
def simpleKey? (text : List Char) : Option (String × List Char) :=
  match text with
  | '"' :: rest => lineString? '"' (rest.length + 1) [] rest
  | '\x27' :: rest => lineString? '\x27' (rest.length + 1) [] rest
  | _ =>
    let name := text.takeWhile inBareKey
    if name.isEmpty then none else some (String.ofList name, text.drop name.length)

/-- A key whose parts are joined by points, with blanks around them. -/
def dottedKey? : Nat → List Char → Option (List String × List Char)
  | 0, _ => none
  | fuel + 1, text => do
    let (name, rest) ← simpleKey? (skipBlanks text)
    let rest := skipBlanks rest
    match rest with
    | '.' :: rest =>
      let (names, rest) ← dottedKey? fuel rest
      some (name :: names, rest)
    | _ => some ([name], rest)

/-- The number of levels to which keys and values can be nested. -/
def depthLimit : Nat := 80

/-- A key as the path to its table and its last part. -/
def key? (text : List Char) : Option ((List String × String) × List Char) := do
  let (names, rest) ← dottedKey? depthLimit text
  let last ← names.getLast?
  if names.length < depthLimit then some ((names.dropLast, last), rest) else none

/-! ### Numbers -/

/-- Digits of a base, with single underscores between them. -/
def digits? (base : Nat) : Nat → List Char → Option (List Char × List Char)
  | 0, _ => none
  | _ + 1, [] => none
  | fuel + 1, c :: rest =>
    if Text.isDigit base c then
      match rest with
      | '_' :: after => do
        let (digits, rest) ← digits? base fuel after
        some (c :: digits, rest)
      | next :: _ =>
        if Text.isDigit base next then do
          let (digits, rest) ← digits? base fuel rest
          some (c :: digits, rest)
        else some ([c], rest)
      | [] => some ([c], [])
    else none

/-- Digits of a base after any number of others. -/
def digitsOf? (base : Nat) (text : List Char) : Option (List Char × List Char) :=
  digits? base (text.length + 1) text

/-- An integer of 64 bits. -/
def integer? (value : Int) : Option Json :=
  if Int64.minValue.toInt ≤ value ∧ value ≤ Int64.maxValue.toInt then some (.int value) else none

/-- The least number that is written as infinity when it is stored in 64 bits. -/
def floatBound : Nat := Nat.pow 2 1024 - Nat.pow 2 970

/-- Whether digits times a power of ten are too large for a number with a fraction. -/
def isTooLarge (digits : List Char) (exponent : Int) : Bool :=
  let value := Text.digitsValue 10 digits
  let magnitude := (digits.dropWhile (· = '0')).length + exponent
  if value = 0 ∨ magnitude < 309 then false
  else if magnitude > 309 then true
  else if exponent ≥ 0 then decide (floatBound ≤ value * Nat.pow 10 exponent.toNat)
  else decide (floatBound * Nat.pow 10 (-exponent).toNat ≤ value)

/-- A fraction after its point, which may be missing. -/
def fraction? : List Char → Option (List Char × List Char)
  | '.' :: rest => digitsOf? 10 rest
  | text => some ([], text)

/-- An exponent after its letter, which may be missing. -/
def exponent? : List Char → Option (Option Int × List Char)
  | e :: rest =>
    if e = 'e' ∨ e = 'E' then
      let (negative, rest) : Bool × List Char := match rest with
        | '-' :: rest => (true, rest)
        | '+' :: rest => (false, rest)
        | _ => (false, rest)
      (digitsOf? 10 rest).map fun (digits, rest) =>
        let value : Int := Text.digitsValue 10 digits
        (some (if negative then -value else value), rest)
    else some (none, e :: rest)
  | [] => some (none, [])

/-- A decimal number after its sign. -/
def decimal? (negative : Bool) (text : List Char) : Option (Json × List Char) := do
  let (digits, rest) ← digitsOf? 10 text
  if digits.head? = some '0' ∧ digits.length ≠ 1 then none
  else
    let (fraction, afterFraction) ← fraction? rest
    let (exponent, rest) ← exponent? afterFraction
    let sign : Int := if negative then -1 else 1
    if fraction.isEmpty ∧ exponent.isNone then
      let value ← integer? (sign * Text.digitsValue 10 digits)
      some (value, rest)
    else if ¬negative ∧ isTooLarge (digits ++ fraction) (exponent.getD 0 - fraction.length) then
      none
    else some (.real (String.ofList (digits ++ '.' :: fraction)), rest)

/-- An integer in a base other than ten. -/
def based? (base : Nat) (text : List Char) : Option (Json × List Char) := do
  let (digits, rest) ← digitsOf? base text
  let value ← integer? (Text.digitsValue base digits)
  some (value, rest)

/-- A number of any kind. -/
def number? (text : List Char) : Option (Json × List Char) :=
  match text with
  | '0' :: 'x' :: rest => based? 16 rest
  | '0' :: 'o' :: rest => based? 8 rest
  | '0' :: 'b' :: rest => based? 2 rest
  | 'i' :: 'n' :: 'f' :: rest => some (.real "inf", rest)
  | 'n' :: 'a' :: 'n' :: rest => some (.real "nan", rest)
  | '+' :: 'i' :: 'n' :: 'f' :: rest => some (.real "inf", rest)
  | '+' :: 'n' :: 'a' :: 'n' :: rest => some (.real "nan", rest)
  | '-' :: 'i' :: 'n' :: 'f' :: rest => some (.real "-inf", rest)
  | '-' :: 'n' :: 'a' :: 'n' :: rest => some (.real "nan", rest)
  | '+' :: rest => decimal? false rest
  | '-' :: rest => decimal? true rest
  | _ => decimal? false text

/-! ### Dates and times -/

/-- A number of exactly so many digits. -/
def fixed? (count : Nat) (text : List Char) : Option (Nat × List Char) :=
  let digits := text.take count
  if digits.length = count then
    (Text.number? 10 digits).map fun value => (value, text.drop count)
  else none

/-- What follows a given character. -/
def mark? (c : Char) : List Char → Option (List Char)
  | first :: rest => if first = c then some rest else none
  | [] => none

/-- The number of days of a month. -/
def daysIn (year month : Nat) : Nat :=
  if month = 2 then
    if year % 4 = 0 ∧ (year % 100 ≠ 0 ∨ year % 400 = 0) then 29 else 28
  else if month ∈ [4, 6, 9, 11] then 30
  else 31

/-- What follows a date. -/
def date? (text : List Char) : Option (List Char) := do
  let (year, rest) ← fixed? 4 text
  let (month, rest) ← mark? '-' rest >>= fixed? 2
  let (day, rest) ← mark? '-' rest >>= fixed? 2
  if 1 ≤ month ∧ month ≤ 12 ∧ 1 ≤ day ∧ day ≤ daysIn year month then some rest else none

/-- What follows a time. -/
def time? (text : List Char) : Option (List Char) := do
  let (hour, rest) ← fixed? 2 text
  let (minute, rest) ← mark? ':' rest >>= fixed? 2
  let (second, rest) ← mark? ':' rest >>= fixed? 2
  if 23 < hour ∨ 59 < minute ∨ 60 < second then none
  else
    match rest with
    | '.' :: after =>
      let digits := after.takeWhile Char.isDigit
      if digits.isEmpty then some rest else some (after.drop digits.length)
    | _ => some rest

/-- What follows the offset of a time, which may be missing. -/
def offset? (text : List Char) : Option (List Char) :=
  match text with
  | 'Z' :: rest => some rest
  | 'z' :: rest => some rest
  | sign :: rest =>
    if sign = '+' ∨ sign = '-' then do
      let (hour, rest) ← fixed? 2 rest
      let (minute, rest) ← mark? ':' rest >>= fixed? 2
      if 23 < hour ∨ 59 < minute then none else some rest
    else some text
  | [] => some text

/-- A date or a time is a table with a single key. -/
def dateValue (written : List Char) : Json :=
  .object [("datetime", .string (String.ofList written))]

/-- What follows a date, a time or both. -/
def moment? (text : List Char) : Option (List Char) :=
  match date? text with
  | none => time? text
  | some rest =>
    match rest with
    | delimiter :: after =>
      if delimiter = 'T' ∨ delimiter = 't' then time? after >>= offset?
      else if delimiter = ' ' then
        match after with
        | c :: _ => if c.isDigit then time? after >>= offset? else some rest
        | [] => some rest
      else some rest
    | [] => some rest

/-- A date or time, told from a number by its fifth or third character. -/
def dateOrNumber? (text : List Char) : Option (Json × List Char) :=
  let digits := (text.takeWhile Char.isDigit).length
  match text.drop digits with
  | mark :: _ =>
    if (digits = 4 ∧ mark = '-') ∨ (digits = 2 ∧ mark = ':') then
      (moment? text).map fun rest => (dateValue (text.take (text.length - rest.length)), rest)
    else number? text
  | [] => number? text

end Aggregation.Toml
