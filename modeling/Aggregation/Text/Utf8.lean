/-
**UTF-8.**

Decoding reads one character at a time. Where the bytes are not a character, the longest part that
could have begun one is taken as one fault: strict decoding refuses the text, lenient decoding puts
U+FFFD in the fault's place.
-/

namespace Aggregation.Text.Utf8

/-- The bytes of a text. -/
def encode (text : List Char) : List UInt8 := text.flatMap String.utf8EncodeChar

/-- What a first byte above U+007F announces: the number of bytes that follow, the range of the
first of them, and the leading bits of the character. -/
def announced? (lead : UInt8) : Option (Nat × UInt8 × UInt8 × Nat) :=
  if 0xC2 ≤ lead && lead ≤ 0xDF then some (1, 0x80, 0xBF, lead.toNat - 0xC0)
  else if lead = 0xE0 then some (2, 0xA0, 0xBF, 0)
  else if lead = 0xED then some (2, 0x80, 0x9F, 0xD)
  else if 0xE1 ≤ lead && lead ≤ 0xEF then some (2, 0x80, 0xBF, lead.toNat - 0xE0)
  else if lead = 0xF0 then some (3, 0x90, 0xBF, 0)
  else if 0xF1 ≤ lead && lead ≤ 0xF3 then some (3, 0x80, 0xBF, lead.toNat - 0xF0)
  else if lead = 0xF4 then some (3, 0x80, 0x8F, 4)
  else none

/-- The rest of a character of which `value` has been read, or a fault. -/
def continuation : Nat → UInt8 → UInt8 → Nat → List UInt8 → Option Char × List UInt8
  | 0, _, _, value, rest => (some (Char.ofNat value), rest)
  | _ + 1, _, _, _, [] => (none, [])
  | count + 1, low, high, value, byte :: rest =>
    if low ≤ byte && byte ≤ high then
      continuation count 0x80 0xBF (value * 64 + (byte.toNat - 0x80)) rest
    else (none, byte :: rest)

theorem continuation_length (count : Nat) (low high : UInt8) (value : Nat) (bytes : List UInt8) :
    (continuation count low high value bytes).2.length ≤ bytes.length := by
  induction bytes generalizing count low high value with
  | nil => cases count <;> simp [continuation]
  | cons byte rest ih =>
    cases count with
    | zero => simp [continuation]
    | succ count =>
      simp only [continuation]
      split
      · exact Nat.le_succ_of_le (ih count 0x80 0xBF _)
      · simp

/-- One character, or one fault, after its first byte. -/
def step (lead : UInt8) (rest : List UInt8) : Option Char × List UInt8 :=
  if lead < 0x80 then (some (Char.ofNat lead.toNat), rest)
  else
    match announced? lead with
    | none => (none, rest)
    | some (count, low, high, bits) => continuation count low high bits rest

theorem step_length (lead : UInt8) (rest : List UInt8) :
    (step lead rest).2.length ≤ rest.length := by
  unfold step
  split
  · exact Nat.le_refl _
  · split
    · exact Nat.le_refl _
    · exact continuation_length _ _ _ _ rest

/-- The characters and faults of some bytes. -/
def read (bytes : List UInt8) : List (Option Char) :=
  match bytes with
  | [] => []
  | lead :: rest => (step lead rest).1 :: read (step lead rest).2
termination_by bytes.length
decreasing_by exact Nat.lt_succ_of_le (step_length lead rest)

/-- The text of some bytes, if they have no fault. -/
def decode? (bytes : List UInt8) : Option (List Char) := (read bytes).mapM id

/-- The text of some bytes, with U+FFFD in the place of each fault. -/
def decodeLossy (bytes : List UInt8) : List Char :=
  (read bytes).map fun found => found.getD '\uFFFD'

end Aggregation.Text.Utf8
