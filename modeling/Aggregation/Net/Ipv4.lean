/-
**IPv4 addresses.**

An address is a number below 2³². It is written as four decimal numbers. Host names that end in a
number are read more liberally: one to four parts in decimal, octal or hexadecimal, the last one
filling all the bytes that are left.
-/

import Aggregation.Text.Digits

namespace Aggregation.Net

/-- An address as a number. -/
structure Ipv4 where
  value : Nat
deriving DecidableEq

namespace Ipv4

/-- The four bytes, the highest first. -/
def bytes (address : Ipv4) : List Nat :=
  [address.value / 0x1000000 % 0x100, address.value / 0x10000 % 0x100,
    address.value / 0x100 % 0x100, address.value % 0x100]

/-- Four decimal numbers joined by points. -/
def display (address : Ipv4) : String :=
  ".".intercalate (address.bytes.map fun byte => toString byte)

/-! ### Liberal reading -/

/-- The value of a run of digits in a base, if all of them are digits of it. -/
def digits? (base : Nat) (text : List Char) : Option Nat :=
  if text.all (Text.isDigit base) then some (Text.digitsValue base text) else none

/-- One part: decimal, octal after a leading zero, hexadecimal after `0x`; a bare mark is zero. -/
def part? : List Char → Option Nat
  | [] => none
  | '0' :: 'x' :: rest => digits? 16 rest
  | '0' :: 'X' :: rest => digits? 16 rest
  | ['0'] => some 0
  | '0' :: rest => digits? 8 rest
  | text => digits? 10 text

/-- The parts of a name, a trailing point being allowed. -/
def parts (name : List Char) : List (List Char) :=
  let parts := name.splitOn '.'
  if parts.getLast? = some [] then parts.dropLast else parts

/-- Whether a name has to be read as an address: its last part is a number. -/
def endsInNumber (name : List Char) : Bool :=
  match (parts name).getLast? with
  | none => false
  | some last => (!last.isEmpty && last.all Char.isDigit) || (part? last).isSome

/-- The address of one to four parts, the last one filling the bytes that are left. -/
def ofParts? (numbers : List Nat) : Option Ipv4 :=
  match numbers.getLast? with
  | none => none
  | some last =>
    let leading := numbers.dropLast
    if leading.length ≤ 3 ∧ last < Nat.pow 256 (4 - leading.length) ∧ leading.all (· < 256) then
      let high := leading.foldl (fun value part => value * 256 + part) 0
      some ⟨high * Nat.pow 256 (4 - leading.length) + last⟩
    else none

/-- Reads a name that ends in a number. -/
def ofName? (name : List Char) : Option Ipv4 := (parts name).mapM part? >>= ofParts?

end Ipv4

end Aggregation.Net
