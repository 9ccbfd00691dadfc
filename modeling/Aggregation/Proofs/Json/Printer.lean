/-
**What the printer writes.**

The reader undoes the escapes of the printer one character at a time (`stringTail?_escape`), and so
it takes a quoted text from the front of whatever follows it (`stringAfterQuote?_quoted`). A text
that begins with a quoted text therefore begins with no other one (`quoted_append_inj`). The text of
an object is taken apart member by member (`chars_object`, `memberChars_cons`).
-/

import Aggregation.Json.Printer
import Aggregation.Json.Reader

namespace Aggregation

namespace Json

/-- The digits of a number below sixteen read back. -/
theorem digitValue?_lowerHex {digit : Nat} (small : digit < 16) :
    Text.digitValue? 16 (Text.lowerHex digit) = some digit := by
  revert digit
  decide

/-- The escape of a control is read back. -/
theorem escapedUnit?_control {code : Nat} (control : code < 32) (rest : List Char) :
    escapedUnit? ('0' :: '0' :: Text.lowerHex (code / 16) :: Text.lowerHex (code % 16) :: rest) =
      some (Char.ofNat code, rest) := by
  have unit : codeUnit?
      ('0' :: '0' :: Text.lowerHex (code / 16) :: Text.lowerHex (code % 16) :: rest) =
        some (code, rest) := by
    have zero : Text.digitValue? 16 '0' = some 0 := by decide
    have value : ((0 * 16 + 0) * 16 + code / 16) * 16 + code % 16 = code := by omega
    rw [codeUnit?, zero, digitValue?_lowerHex (by omega), digitValue?_lowerHex (by omega)]
    show some (((0 * 16 + 0) * 16 + code / 16) * 16 + code % 16, rest) = _
    rw [value]
  have low : ¬(0xD800 ≤ code ∧ code < 0xDC00) := by omega
  have high : ¬(0xDC00 ≤ code ∧ code < 0xE000) := by omega
  rw [escapedUnit?, unit]
  simp only [Option.bind_eq_bind, Option.bind_some, if_neg low, if_neg high]
  rfl

/-- An escape by its code is read as the character. -/
theorem stringTail?_unit {text after : List Char} {c : Char}
    (unit : escapedUnit? text = some (c, after)) (fuel : Nat) (read : List Char) :
    stringTail? (fuel + 1) read ('\\' :: 'u' :: text) = stringTail? fuel (c :: read) after := by
  simp [stringTail?, unit]

/-- **An escaped character is read as the character.** -/
theorem stringTail?_escape (fuel : Nat) (read : List Char) (c : Char) (rest : List Char) :
    stringTail? (fuel + 1) read (escape c ++ rest) = stringTail? fuel (c :: read) rest := by
  by_cases special : c ∈ ['"', '\\', '\x08', '\t', '\n', '\x0c', '\r']
  · simp only [List.mem_cons, List.not_mem_nil, or_false] at special
    rcases special with rfl | rfl | rfl | rfl | rfl | rfl | rfl <;> rfl
  · simp only [List.mem_cons, List.not_mem_nil, or_false, not_or] at special
    obtain ⟨quote, backslash, backspace, tab, newline, feed, carriage⟩ := special
    unfold escape
    rw [if_neg quote, if_neg backslash, if_neg backspace, if_neg tab, if_neg newline, if_neg feed,
      if_neg carriage]
    split
    · next control =>
      have unit := escapedUnit?_control control rest
      rw [Char.ofNat_toNat] at unit
      exact stringTail?_unit unit fuel read
    · next printable =>
      show (if c = '"' then _ else if c = '\\' then _ else if c.toNat < 32 then none else
        stringTail? fuel (c :: read) rest) = _
      rw [if_neg quote, if_neg backslash, if_neg printable]

theorem stringTail?_flatMap_escape (chars : List Char) (fuel : Nat) (read rest : List Char) :
    stringTail? (fuel + chars.length) read (chars.flatMap escape ++ rest) =
      stringTail? fuel (chars.reverse ++ read) rest := by
  induction chars generalizing read with
  | nil => rfl
  | cons c chars ih =>
    rw [List.flatMap_cons, List.append_assoc, List.length_cons, ← Nat.add_assoc,
      stringTail?_escape, ih, List.reverse_cons, List.append_assoc]
    rfl

/-- An escape is at least one character long. -/
theorem length_escape_pos (c : Char) : 1 ≤ (escape c).length := by
  unfold escape
  repeat' split
  all_goals simp

theorem length_le_flatMap_escape (chars : List Char) :
    chars.length ≤ (chars.flatMap escape).length := by
  induction chars with
  | nil => exact Nat.le_refl 0
  | cons c chars ih =>
    have more := length_escape_pos c
    rw [List.flatMap_cons, List.length_append, List.length_cons]
    omega

/-- **A quoted text reads back from the front of any text.** -/
theorem stringAfterQuote?_quoted (text : String) (rest : List Char) :
    stringAfterQuote? ((quoted text).tail ++ rest) = some (text, rest) := by
  have long := length_le_flatMap_escape text.toList
  unfold quoted stringAfterQuote?
  show stringTail? ((text.toList.flatMap escape ++ ['"'] ++ rest).length + 1) []
    (text.toList.flatMap escape ++ ['"'] ++ rest) = _
  rw [List.append_assoc]
  obtain ⟨fuel, enough⟩ : ∃ fuel,
      (text.toList.flatMap escape ++ (['"'] ++ rest)).length + 1 =
        fuel + 1 + text.toList.length := by
    refine ⟨(text.toList.flatMap escape ++ (['"'] ++ rest)).length - text.toList.length, ?_⟩
    rw [List.length_append]
    omega
  rw [enough, stringTail?_flatMap_escape]
  show some (String.ofList (text.toList.reverse ++ []).reverse, rest) = _
  rw [List.append_nil, List.reverse_reverse, String.ofList_toList]

/-- **What begins with a quoted text begins with no other one.** -/
theorem quoted_append_inj {first second : String} {left right : List Char}
    (same : quoted first ++ left = quoted second ++ right) : first = second ∧ left = right := by
  have read := stringAfterQuote?_quoted first left
  have tails : (quoted first).tail ++ left = (quoted second).tail ++ right :=
    List.tail_eq_of_cons_eq same
  rw [tails, stringAfterQuote?_quoted second right] at read
  cases read
  exact ⟨rfl, rfl⟩

/-! ### Objects -/

theorem chars_string (text : String) : chars (string text) = quoted text := by
  rw [chars]

theorem chars_object (members : List (String × Json)) :
    chars (object members) = '\x7b' :: (memberChars members ++ ['\x7d']) := by
  rw [chars]
  rfl

theorem memberChars_cons (name : String) (value : Json) (next : String × Json)
    (rest : List (String × Json)) :
    memberChars ((name, value) :: next :: rest) =
      quoted name ++ (':' :: (chars value ++ (',' :: memberChars (next :: rest)))) := by
  rw [memberChars, List.append_assoc]
  · rfl
  · nofun

end Json

end Aggregation
