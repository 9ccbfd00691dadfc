/-
**Domain names.**

A domain name is compared and written in small ASCII letters. Its characters are mapped first, and
the outcome is composed. A label that says so, by its first four characters, is the written form of
one with characters beyond ASCII, and every label with such characters is written in that form.
Controls, blanks and the characters that delimit the parts of a URL are refused.
-/

import Aggregation.Text.Utf8
import Aggregation.Url.Domain.Label
import Aggregation.Url.Domain.Mapping
import Aggregation.Url.Domain.Punycode

namespace Aggregation.Domain

/-- Whether a character cannot stand in a domain name. -/
def isForbidden (c : Char) : Bool :=
  c.toNat ≤ 0x20 || c.toNat = 0x7F ||
    c ∈ ['%', '#', '/', ':', '<', '>', '?', '@', '[', '\\', ']', '^', '|']

/-- How the written form of a label begins. -/
def written : List Char := "xn--".toList

/-- The most characters of a label that is to be written. -/
def longest : Nat := 1000

/-- Whether a label that was read from its written form could have been written. -/
def isWritable (label : List Char) : Bool :=
  !isAscii label && label.all isKept && Text.Composed.compose label == label

/-- The label that is meant by one of a mapped name. -/
def read? (label : List Char) : Option (List Char) :=
  if written.isPrefixOf label then
    match Punycode.decode? (label.drop written.length) with
    | some meant => if isWritable meant then some meant else none
    | none => none
  else if !isAscii label ∧ longest < label.length then none
  else some label

/-- The ASCII form of a label. -/
def write (label : List Char) : List Char :=
  if isAscii label then label else written ++ Punycode.encode label

/-- Whether labels make up a name that keeps the rules. -/
def areSound (labels : List (List Char)) : Bool :=
  labels.all isSound &&
    (!(labels.any fun label => label.any fun c => (Direction.of c).isRight) ||
      labels.all keepsDirection)

/-- The ASCII form of a name given by its bytes, if it is a domain name. -/
def toAscii? (bytes : List UInt8) : Option (List Char) := do
  let name ← Text.Utf8.decode? bytes
  let mapped ← mapText? name
  let composed := Text.Composed.compose mapped
  if composed.any isForbidden then none
  else
    let labels ← (composed.splitOn '.').mapM read?
    if areSound labels then some (['.'].intercalate (labels.map write)) else none

end Aggregation.Domain
