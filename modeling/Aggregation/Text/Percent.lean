/-
**Percent-encoding.**

A byte is written as a percent sign and two hexadecimal digits. Encoding writes the bytes of the
characters for which a set asks, always including everything outside ASCII; decoding turns every
well-formed triplet back into its byte and leaves all else alone.
-/

import Aggregation.Text.Digits
import Aggregation.Text.Utf8

namespace Aggregation.Text.Percent

/-- A byte as a triplet. -/
def triplet (byte : UInt8) : List Char :=
  ['%', upperHex (byte.toNat / 16), upperHex (byte.toNat % 16)]

/-- A character, as triplets if the set holds it or it is outside ASCII. -/
def encodeChar (set : Char → Bool) (c : Char) : List Char :=
  if c.toNat ≥ 0x80 || set c then (String.utf8EncodeChar c).flatMap triplet else [c]

/-- A text with the characters of the set as triplets. -/
def encode (set : Char → Bool) (text : List Char) : List Char := text.flatMap (encodeChar set)

/-- The bytes of a text, each triplet standing for one byte. -/
def decode : List Char → List UInt8
  | '%' :: a :: b :: rest =>
    match digitValue? 16 a, digitValue? 16 b with
    | some high, some low => UInt8.ofNat (high * 16 + low) :: decode rest
    | _, _ => 0x25 :: decode (a :: b :: rest)
  | c :: rest => String.utf8EncodeChar c ++ decode rest
  | [] => []

end Aggregation.Text.Percent
