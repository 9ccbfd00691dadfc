/-
**IPv6 addresses.**

An address has eight 16-bit groups. It is written in lower-case hexadecimal, with the first longest
run of two or more zero groups left out. The reader takes up to four digits per group, one run of
zeros left out, and an IPv4 address in place of the last two groups.
-/

import Aggregation.Text.Digits

namespace Aggregation.Net

/-- An address as its eight groups. -/
structure Ipv6 where
  groups : List Nat
deriving DecidableEq

namespace Ipv6

/-! ### Printing -/

/-- The number of zero groups at the start. -/
def zeros (groups : List Nat) : Nat := (groups.takeWhile (· = 0)).length

/-- The longest run of zero groups as its start and length, the first of equally long ones. -/
def longestZeros : Nat → List Nat → Nat × Nat
  | _, [] => (0, 0)
  | start, group :: rest =>
    let here := zeros (group :: rest)
    let later := longestZeros (start + 1) rest
    if here ≥ later.2 then (start, here) else later

/-- Groups in hexadecimal joined by colons. -/
def joined (groups : List Nat) : List Char :=
  [':'].intercalate (groups.map Text.hexDigits)

/-- The written form without brackets. -/
def display (address : Ipv6) : String :=
  let (start, length) := longestZeros 0 address.groups
  String.ofList (
    if length < 2 then joined address.groups
    else joined (address.groups.take start) ++ ':' :: ':' ::
      joined (address.groups.drop (start + length)))

/-! ### Reading -/

/-- A decimal byte without leading zeros. -/
def byte? (text : List Char) : Option Nat := do
  let value ← Text.number? 10 text
  if value < 256 ∧ (text.head? = some '0' → text.length = 1) then some value else none

/-- The two groups of an IPv4 address in decimal bytes. -/
def ipv4Groups? (text : List Char) : Option (List Nat) := do
  match ← (text.splitOn '.').mapM byte? with
  | [a, b, c, d] => some [a * 256 + b, c * 256 + d]
  | _ => none

/-- The groups read so far, and where among them a run of zeros was left out. -/
structure Reading where
  groups : List Nat
  gap : Option Nat

/-- Reads groups up to the end of the text, in at most `fuel` steps. -/
def read? : Nat → Reading → List Char → Option Reading
  | 0, _, _ => none
  | _ + 1, so, [] => some so
  | fuel + 1, so, c :: text =>
    if so.groups.length = 8 then none
    else if c = ':' then
      if so.gap.isSome then none
      else read? fuel ⟨so.groups ++ [0], some (so.groups.length + 1)⟩ text
    else
      let run := ((c :: text).take 4).takeWhile (Text.isDigit 16)
      match (c :: text).drop run.length with
      | [] => read? fuel ⟨so.groups ++ [Text.digitsValue 16 run], so.gap⟩ []
      | ':' :: rest =>
        if rest.isEmpty then none
        else read? fuel ⟨so.groups ++ [Text.digitsValue 16 run], so.gap⟩ rest
      | '.' :: _ =>
        if run.isEmpty ∨ so.groups.length > 6 then none
        else (ipv4Groups? (c :: text)).map fun last => ⟨so.groups ++ last, so.gap⟩
      | _ => none

/-- Fills the run of zeros that was left out. -/
def complete? (so : Reading) : Option Ipv6 :=
  match so.gap with
  | none => if so.groups.length = 8 then some ⟨so.groups⟩ else none
  | some gap =>
    some ⟨so.groups.take gap ++ List.replicate (8 - so.groups.length) 0 ++ so.groups.drop gap⟩

/-- The address written by a text without brackets. -/
def parse? (text : List Char) : Option Ipv6 :=
  match text with
  | ':' :: ':' :: rest => read? (rest.length + 1) ⟨[0], some 1⟩ rest >>= complete?
  | ':' :: _ => none
  | [] => none
  | [_] => none
  | text => read? (text.length + 1) ⟨[], none⟩ text >>= complete?

end Ipv6

end Aggregation.Net
