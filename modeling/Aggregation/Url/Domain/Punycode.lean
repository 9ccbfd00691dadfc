/-
**Labels in ASCII.**

A label with other characters is written in ASCII: first its ASCII characters, then a hyphen if
there are any, and then a number for each other character, in the order of the code points and, for
equal ones, of their places. A number says how many places, over all code points in between, lie
between a character and the one before. It is written in digits of a base that changes with the
place of the digit and with the numbers before.
-/

namespace Aggregation.Domain.Punycode

/-- The number of digits. -/
def base : Nat := 36

/-- The first code point that is not ASCII. -/
def firstCode : Nat := 0x80

/-- The bias at the start. -/
def firstBias : Nat := 72

/-- The digit of a number below the base. -/
def digit (value : Nat) : Char :=
  if value < 26 then Char.ofNat (97 + value) else Char.ofNat (22 + value)

/-- The number of a digit. -/
def value? (c : Char) : Option Nat :=
  if 'a' ≤ c ∧ c ≤ 'z' then some (c.toNat - 97)
  else if 'A' ≤ c ∧ c ≤ 'Z' then some (c.toNat - 65)
  else if '0' ≤ c ∧ c ≤ '9' then some (c.toNat - 22)
  else none

/-- The least digit at a place that another digit follows. -/
def threshold (bias place : Nat) : Nat := min 26 (max 1 (base * place - bias))

theorem threshold_pos (bias place : Nat) : 0 < threshold bias place := by
  unfold threshold
  omega

/-- Divides a number until it is small, counting the steps. -/
def scale (number steps : Nat) : Nat × Nat :=
  if 455 < number then scale (number / 35) (steps + 1) else (number, steps)
termination_by number
decreasing_by omega

/-- The bias after a number, with so many characters written. -/
def adapt (number written : Nat) (isFirst : Bool) : Nat :=
  let number := if isFirst then number / 700 else number / 2
  let (rest, steps) := scale (number + number / written) 0
  base * steps + base * rest / (rest + 38)

/-! ### Writing -/

/-- The digits of a number from a place on. -/
def digits (bias place number : Nat) : List Char :=
  let least := threshold bias place
  if number < least then [digit number]
  else
    digit (least + (number - least) % (base - least)) ::
      digits bias (place + 1) ((number - least) / (base - least))
termination_by number
decreasing_by
  have positive := threshold_pos bias place
  exact Nat.lt_of_le_of_lt (Nat.div_le_self _ _) (by omega)

/-- A label on the way to being written. -/
structure Writing where
  out : List Char
  distance : Nat
  bias : Nat
  written : Nat
  isFirst : Bool

namespace Writing

/-- Passes a character of the label while a code point is looked for. -/
def pass (code : Nat) (state : Writing) (c : Char) : Writing :=
  if c.toNat < code then { state with distance := state.distance + 1 }
  else if c.toNat = code then
    { out := state.out ++ digits state.bias 1 state.distance
      distance := 0
      bias := adapt state.distance (state.written + 1) state.isFirst
      written := state.written + 1
      isFirst := false }
  else state

/-- Writes all characters of a code point, coming from another code point. -/
def passAll (label : List Char) (state : Writing × Nat) (code : Nat) : Writing × Nat :=
  let (state, before) := state
  let state :=
    { state with distance := state.distance + (code - before) * (state.written + 1) }
  let state := label.foldl (pass code) state
  ({ state with distance := state.distance + 1 }, code + 1)

end Writing

/-- The code points of a label above ASCII, ascending, each once. -/
def codes (label : List Char) : List Nat :=
  (((label.map Char.toNat).filter (firstCode ≤ ·)).mergeSort (· ≤ ·)).eraseDups

/-- The written form of a label. -/
def encode (label : List Char) : List Char :=
  let plain := label.filter fun c => c.toNat < firstCode
  let start : Writing := ⟨[], 0, firstBias, plain.length, true⟩
  plain ++ (if plain.isEmpty then [] else ['-']) ++
    ((codes label).foldl (Writing.passAll label) (start, firstCode)).1.out

/-! ### Reading -/

/-- Reads a number from a place on, and gives what follows it. -/
def readNumber? (bias : Nat) : Nat → Nat → Nat → List Char → Option (Nat × List Char)
  | _, _, _, [] => none
  | place, weight, sum, c :: rest => do
    let value ← value? c
    let least := threshold bias place
    let sum := sum + value * weight
    if value < least then some (sum, rest)
    else readNumber? bias (place + 1) (weight * (base - least)) sum rest

/-- Whether a number is the code point of a character. -/
def isCode (code : Nat) : Bool := code < 0xD800 || (0xDFFF < code && code < 0x110000)

/-- Reads at most so many numbers, each of which puts a character into the label. -/
def readFor? : Nat → Nat → Nat → Nat → Bool → List Char → List Char → Option (List Char)
  | _, _, _, _, _, label, [] => some label
  | 0, _, _, _, _, _, _ :: _ => none
  | fuel + 1, code, position, bias, isFirst, label, text => do
    let (number, rest) ← readNumber? bias 1 1 0 text
    let length := label.length + 1
    let code := code + (position + number) / length
    let position := (position + number) % length
    if isCode code then
      readFor? fuel code (position + 1) (adapt number length isFirst) false
        (label.insertIdx position (Char.ofNat code)) rest
    else none

/-- What stands before and after the last hyphen. If nothing stands before it, the whole text stands
after it. -/
def splitLast (text : List Char) : List Char × List Char :=
  let after := (text.reverse.takeWhile (· ≠ '-')).reverse
  let before := (text.take (text.length - after.length)).dropLast
  if before.isEmpty then ([], text) else (before, after)

/-- The label of a written form. -/
def decode? (text : List Char) : Option (List Char) :=
  let (plain, numbers) := splitLast text
  if text.all fun c => c.toNat < firstCode then
    readFor? numbers.length firstCode 0 firstBias true plain numbers
  else none

end Aggregation.Domain.Punycode
