/-
**Socket addresses.**

An address to listen on is `a.b.c.d:port` or `[groups%scope]:port`; names are not looked up. Decimal
bytes have no leading zeros; groups have up to four hexadecimal digits, one run of zero groups may
be left out, and the last two groups may be an IPv4 address. Port and scope may have leading zeros.
-/

import Aggregation.Text.Digits

namespace Aggregation.Net

/-- An address and a port to listen on. -/
inductive SocketAddress where
  | v4 (bytes : List Nat) (port : Nat)
  | v6 (groups : List Nat) (scope : Nat) (port : Nat)

namespace SocketAddress

/-! ### Parts -/

/-- A number below a bound, in at most `most` digits of a base, and what follows it. -/
def number? (base : Nat) (most : Option Nat) (leadingZeros : Bool) (bound : Nat)
    (text : List Char) : Option (Nat × List Char) :=
  let digits := text.takeWhile (Text.isDigit base)
  let value := Text.digitsValue base digits
  if digits.isEmpty ∨ most.any (· < digits.length) ∨ bound ≤ value ∨
      (¬leadingZeros ∧ digits.head? = some '0' ∧ digits.length ≠ 1) then none
  else some (value, text.drop digits.length)

/-- What follows a given character. -/
def mark? (c : Char) : List Char → Option (List Char)
  | first :: rest => if first = c then some rest else none
  | [] => none

/-- Four decimal bytes joined by points, and what follows them. -/
def bytes? (text : List Char) : Option (List Nat × List Char) := do
  let byte (text : List Char) := number? 10 (some 3) false 256 text
  let (a, rest) ← byte text
  let (b, rest) ← mark? '.' rest >>= byte
  let (c, rest) ← mark? '.' rest >>= byte
  let (d, rest) ← mark? '.' rest >>= byte
  return ([a, b, c, d], rest)

/-- The two groups of an IPv4 address, and what follows it. -/
def byteGroups? (text : List Char) : Option (List Nat × List Char) :=
  match bytes? text with
  | some ([a, b, c, d], rest) => some ([a * 256 + b, c * 256 + d], rest)
  | _ => none

/-- At most `room` groups joined by colons, whether they end in an IPv4 address, and what follows
them. -/
def groups (room : Nat) (first : Bool) (text : List Char) : List Nat × Bool × List Char :=
  match room with
  | 0 => ([], false, text)
  | room + 1 =>
    match if first then some text else mark? ':' text with
    | none => ([], false, text)
    | some after =>
      match if room = 0 then none else byteGroups? after with
      | some (last, rest) => (last, true, rest)
      | none =>
        match number? 16 (some 4) true 0x10000 after with
        | none => ([], false, text)
        | some (group, rest) =>
          let (more, isByteGroup, rest) := groups room false rest
          (group :: more, isByteGroup, rest)

/-- Eight groups of which a run of zeros may be left out, and what follows them. -/
def allGroups? (text : List Char) : Option (List Nat × List Char) :=
  let (head, endsInBytes, rest) := groups 8 true text
  if head.length = 8 then some (head, rest)
  else if endsInBytes then none
  else do
    let rest ← mark? ':' rest >>= mark? ':'
    let (tail, _, rest) := groups (7 - head.length) true rest
    return (head ++ List.replicate (8 - head.length - tail.length) 0 ++ tail, rest)

/-- A port after its colon, with nothing behind it. -/
def port? (text : List Char) : Option Nat := do
  let (port, rest) ← mark? ':' text >>= number? 10 none true 0x10000
  if rest.isEmpty then some port else none

/-! ### Whole addresses -/

/-- An IPv4 address with its port. -/
def parseV4? (text : List Char) : Option SocketAddress := do
  let (bytes, rest) ← bytes? text
  return v4 bytes (← port? rest)

/-- An IPv6 address with its port. -/
def parseV6? (text : List Char) : Option SocketAddress := do
  let (groups, rest) ← mark? '[' text >>= allGroups?
  let (scope, rest) := (mark? '%' rest >>= number? 10 none true 0x100000000).getD (0, rest)
  return v6 groups scope (← mark? ']' rest >>= port?)

/-- The address written by a text. -/
def parse? (text : String) : Option SocketAddress :=
  parseV4? text.toList <|> parseV6? text.toList

end SocketAddress

end Aggregation.Net
