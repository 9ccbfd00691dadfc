/-
**Digits.**

Reading and writing of numbers in decimal and in hexadecimal.
-/

namespace Aggregation.Text

/-- The value of a digit in a base of at most sixteen. -/
def digitValue? (base : Nat) (c : Char) : Option Nat :=
  let value :=
    if '0' ≤ c ∧ c ≤ '9' then c.toNat - 48
    else if 'a' ≤ c ∧ c ≤ 'f' then c.toNat - 87
    else if 'A' ≤ c ∧ c ≤ 'F' then c.toNat - 55
    else base
  if value < base then some value else none

/-- Whether a character is a digit in a base of at most sixteen. -/
def isDigit (base : Nat) (c : Char) : Bool := (digitValue? base c).isSome

/-- The value of a run of digits; none at all is zero. -/
def digitsValue (base : Nat) (digits : List Char) : Nat :=
  digits.foldl (fun value c => value * base + (digitValue? base c).getD 0) 0

/-- The number written by a text that holds digits only, and at least one. -/
def number? (base : Nat) (text : List Char) : Option Nat :=
  if text.isEmpty ∨ ¬text.all (isDigit base) then none else some (digitsValue base text)

/-- The digits of a number in lower-case hexadecimal, without leading zeros. -/
def hexDigits (value : Nat) : List Char := Nat.toDigits 16 value

/-- One digit in lower-case hexadecimal. -/
def lowerHex (digit : Nat) : Char :=
  if digit < 10 then Char.ofNat (48 + digit) else Char.ofNat (87 + digit)

/-- One digit in upper-case hexadecimal. -/
def upperHex (digit : Nat) : Char :=
  if digit < 10 then Char.ofNat (48 + digit) else Char.ofNat (55 + digit)

end Aggregation.Text
