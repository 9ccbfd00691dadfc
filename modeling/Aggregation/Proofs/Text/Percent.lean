/-
**What percent-encoding and decoding leave alone.**

A character is spared by a set if it is in ASCII and outside the set. A text of spared characters is
its own encoding, and an encoding has no other characters, as long as the set spares the characters
of a triplet.

A text is its own decoding exactly if it holds no triplet (`decode?_decode_eq_iff`): without one its
bytes come out as they went in, and a triplet makes them fewer.
-/

import Aggregation.Proofs.Text.Utf8
import Aggregation.Text.Percent

namespace Aggregation.Text.Percent

/-- Whether encoding leaves a character as it is. -/
def spares (set : Char → Bool) (c : Char) : Bool := c.toNat < 0x80 && !set c

/-- The characters of triplets. -/
def marks : List Char := "%0123456789ABCDEF".toList

variable {set : Char → Bool} {text : List Char}

theorem encodeChar_of_spares {c : Char} (spared : spares set c = true) :
    encodeChar set c = [c] := by
  simp only [spares, Bool.and_eq_true, decide_eq_true_eq, Bool.not_eq_true'] at spared
  have ascii : ¬128 ≤ c.toNat := Nat.not_le.mpr spared.1
  simp [encodeChar, ascii, spared.2]

/-- A text of spared characters is its own encoding. -/
theorem encode_of_spares (spared : ∀ c ∈ text, spares set c = true) : encode set text = text := by
  induction text with
  | nil => rfl
  | cons c rest ih =>
    have first : encodeChar set c = [c] := encodeChar_of_spares (spared c List.mem_cons_self)
    have others : encode set rest = rest :=
      ih fun d member => spared d (List.mem_cons_of_mem c member)
    unfold encode at others ⊢
    rw [List.flatMap_cons, first, others, List.singleton_append]

theorem mem_marks_of_mem_triplet {byte : UInt8} {c : Char} (member : c ∈ triplet byte) :
    c ∈ marks := by
  have digit : ∀ value < 16, upperHex value ∈ marks := by decide
  simp only [triplet, List.mem_cons, List.not_mem_nil, or_false] at member
  rcases member with rfl | rfl | rfl
  · decide
  · exact digit _ (by have := byte.toNat_lt; omega)
  · exact digit _ (Nat.mod_lt _ (by decide))

theorem digitValue?_upperHex : ∀ value < 16, digitValue? 16 (upperHex value) = some value := by
  decide

/-- Triplets are decoded to the bytes that they were written for. -/
theorem decode_flatMap_triplet (bytes : List UInt8) : decode (bytes.flatMap triplet) = bytes := by
  induction bytes with
  | nil => rfl
  | cons byte rest ih =>
    have high : byte.toNat / 16 < 16 := by
      have := byte.toNat_lt
      omega
    have low : byte.toNat % 16 < 16 := Nat.mod_lt _ (by decide)
    have whole : byte.toNat / 16 * 16 + byte.toNat % 16 = byte.toNat := Nat.div_add_mod' _ _
    rw [List.flatMap_cons]
    show decode ('%' :: _ :: _ :: rest.flatMap triplet) = _
    rw [decode, digitValue?_upperHex _ high, digitValue?_upperHex _ low]
    show UInt8.ofNat _ :: _ = _
    rw [whole, UInt8.ofNat_toNat, ih]

/-- A character of an encoding was spared or belongs to a triplet. -/
theorem mem_encode {c : Char} (member : c ∈ encode set text) :
    c ∈ text ∧ spares set c = true ∨ c ∈ marks := by
  simp only [encode, List.mem_flatMap] at member
  obtain ⟨d, inText, inChar⟩ := member
  unfold encodeChar at inChar
  split at inChar
  · simp only [List.mem_flatMap] at inChar
    obtain ⟨byte, -, inTriplet⟩ := inChar
    exact .inr (mem_marks_of_mem_triplet inTriplet)
  · next plain =>
    obtain rfl : c = d := by simpa using inChar
    refine .inl ⟨inText, ?_⟩
    simpa [spares] using plain

/-! ### Decoding -/

/-- Whether a text holds a triplet. -/
def hasTriplet : List Char → Bool
  | '%' :: a :: b :: rest => isDigit 16 a && isDigit 16 b || hasTriplet (a :: b :: rest)
  | _ :: rest => hasTriplet rest
  | [] => false

/-- Without a triplet, decoding gives the bytes of the text. -/
theorem decode_eq_encode (plain : hasTriplet text = false) : decode text = Utf8.encode text := by
  fun_induction decode text with
  | case1 a b rest high low readHigh readLow ih =>
    simp [hasTriplet, isDigit, readHigh, readLow] at plain
  | case2 a b rest unread ih =>
    rw [hasTriplet, Bool.or_eq_false_iff] at plain
    rw [ih plain.2]
    rfl
  | case3 c rest noTriplet ih =>
    rw [hasTriplet] at plain
    · rw [ih plain]
      rfl
    · exact noTriplet
  | case4 => rfl

/-- A triplet makes the bytes fewer. -/
theorem length_decode_le (text : List Char) :
    (decode text).length + (hasTriplet text).toNat ≤ (Utf8.encode text).length := by
  have byte (c : Char) : 0 < (String.utf8EncodeChar c).length := by
    rw [String.length_utf8EncodeChar]
    exact c.utf8Size_pos
  fun_induction decode text with
  | case1 a b rest high low readHigh readLow ih =>
    -- Three characters have become one byte.
    have first := byte a
    have second := byte b
    have percent := byte '%'
    have most := Bool.toNat_le (hasTriplet ('%' :: a :: b :: rest))
    simp only [Utf8.encode, List.flatMap_cons, List.length_append, List.length_cons] at ih ⊢
    omega
  | case2 a b rest unread ih =>
    have noDigits : (isDigit 16 a && isDigit 16 b) = false := by
      cases high : digitValue? 16 a with
      | none => simp [isDigit, high]
      | some value =>
        cases low : digitValue? 16 b with
        | none => simp [isDigit, low]
        | some rest => exact (unread value rest high low).elim
    have percent := byte '%'
    rw [hasTriplet, noDigits, Bool.false_or]
    simp only [Utf8.encode, List.flatMap_cons, List.length_append, List.length_cons] at ih ⊢
    omega
  | case3 c rest noTriplet ih =>
    rw [hasTriplet]
    · simp only [Utf8.encode, List.flatMap_cons, List.length_append] at ih ⊢
      omega
    · exact noTriplet
  | case4 => simp [hasTriplet]

/-- A text is what its triplets and characters spell exactly if it has no triplets. -/
theorem decode?_decode_eq_iff :
    Utf8.decode? (decode text) = some text ↔ hasTriplet text = false := by
  constructor
  · intro same
    have shorter := length_decode_le text
    have longer := Utf8.length_encode_le same
    cases triplet : hasTriplet text with
    | false => rfl
    | true =>
      rw [triplet, Bool.toNat_true] at shorter
      omega
  · intro plain
    rw [decode_eq_encode plain]
    exact Utf8.decode?_encode text

end Aggregation.Text.Percent
