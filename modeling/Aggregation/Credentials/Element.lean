/-
**Tagged elements.**

Certificates and keys are nested elements: a tag, a length, and so many bytes. A length below 128 is
one byte; else a byte gives the number of bytes of the length that follow. `Element.listOf?` reads
elements one after the other until nothing is left.
-/

import Aggregation.Bytes

namespace Aggregation

/-- A tag with its content. -/
structure Element where
  tag : UInt8
  content : Bytes
deriving DecidableEq

namespace Element

/-- The tag of whole numbers. -/
def numberTag : UInt8 := 0x02

/-- The tag of strings of bits. -/
def bitsTag : UInt8 := 0x03

/-- The tag of strings of bytes. -/
def bytesTag : UInt8 := 0x04

/-- The tag of sequences of elements. -/
def sequenceTag : UInt8 := 0x30

/-- The number that some bytes stand for, the first one counting most. -/
def number (bytes : Bytes) : Nat := bytes.foldl (fun value byte => value * 256 + byte.toNat) 0

/-- The length at the start of some bytes, and what follows it. -/
def length? : Bytes → Option (Nat × Bytes)
  | [] => none
  | first :: rest =>
    if first < 0x80 then some (first.toNat, rest)
    else
      let count := first.toNat - 0x80
      if count = 0 ∨ rest.length < count then none
      else some (number (rest.take count), rest.drop count)

/-- The first element of some bytes, and what follows it. -/
def first? : Bytes → Option (Element × Bytes)
  | [] => none
  | tag :: rest => do
    let (length, rest) ← length? rest
    if rest.length < length then none else some (⟨tag, rest.take length⟩, rest.drop length)

/-- At most so many elements that make up some bytes. -/
def listFor? : Nat → Bytes → Option (List Element)
  | _, [] => some []
  | 0, _ :: _ => none
  | fuel + 1, bytes => do
    let (element, rest) ← first? bytes
    let others ← listFor? fuel rest
    some (element :: others)

/-- The elements that make up some bytes. -/
def listOf? (bytes : Bytes) : Option (List Element) := listFor? bytes.length bytes

/-- The elements of the one sequence that makes up some bytes. -/
def sequence? (bytes : Bytes) : Option (List Element) :=
  match listOf? bytes with
  | some [element] => if element.tag = sequenceTag then listOf? element.content else none
  | _ => none

end Element

end Aggregation
