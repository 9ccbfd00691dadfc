/-
**Decimal digits.**

The digits of a number are read as the number (`digitsValue_toDigits`). They are there, they are
digits, and no zero stands in front of them unless it is all there is.
-/

import Aggregation.Text.Digits
import Mathlib.Data.List.Basic

namespace Aggregation.Text

/-- A decimal digit counts what it shows. -/
theorem digitValue?_digit {c : Char} (digit : c.isDigit = true) :
    digitValue? 10 c = some (c.toNat - 48) := by
  obtain ⟨least, most⟩ : '0' ≤ c ∧ c ≤ '9' := by
    simpa [Char.isDigit, Char.le_def] using digit
  have small : c.toNat - 48 < 10 := by
    have below : c.toNat ≤ 57 := most
    omega
  simp [digitValue?, least, most, small]

theorem isDigit_of_mem_toDigits (value : Nat) : ∀ c ∈ Nat.toDigits 10 value, c.isDigit = true :=
  fun _ member => Nat.isDigit_of_mem_toDigits (by decide) (Nat.le_refl 10) member

/-- A number starts with a digit. -/
theorem toDigits_eq_cons (value : Nat) :
    ∃ first others, Nat.toDigits 10 value = first :: others ∧ first.isDigit = true := by
  obtain ⟨first, others, shape⟩ := List.exists_cons_of_ne_nil (Nat.toDigits_ne_nil (n := value))
  refine ⟨first, others, shape, isDigit_of_mem_toDigits value first ?_⟩
  rw [shape]
  exact List.mem_cons_self

/-- Only zero starts with a zero. -/
theorem head?_toDigits {value : Nat} (positive : 0 < value) :
    (Nat.toDigits 10 value).head? ≠ some '0' := by
  induction value using Nat.strongRecOn with
  | ind value ih =>
    by_cases short : value < 10
    · rw [Nat.toDigits_of_lt_base short]
      have digits : ∀ digit < 10, 0 < digit → [Nat.digitChar digit].head? ≠ some '0' := by decide
      exact digits value short positive
    · rw [Nat.toDigits_of_base_le (by decide) (by omega),
        List.head?_append_of_ne_nil _ Nat.toDigits_ne_nil]
      exact ih (value / 10) (by omega) (by omega)

theorem foldl_digitValue? {digits : List Char} (all : ∀ c ∈ digits, c.isDigit = true)
    (value : Nat) :
    digits.foldl (fun value c => value * 10 + (digitValue? 10 c).getD 0) value =
      Nat.ofDigitChars 10 digits value := by
  induction digits generalizing value with
  | nil => rw [Nat.ofDigitChars_nil, List.foldl_nil]
  | cons c rest ih =>
    rw [List.foldl_cons, ih fun other member => all other (List.mem_cons_of_mem _ member),
      Nat.ofDigitChars_cons, digitValue?_digit (all c List.mem_cons_self), Nat.mul_comm]
    rfl

/-- **The digits of a number are read as the number.** -/
theorem digitsValue_toDigits (value : Nat) : digitsValue 10 (Nat.toDigits 10 value) = value := by
  rw [digitsValue, foldl_digitValue? (isDigit_of_mem_toDigits value), Nat.ofDigitChars_ten_toDigits]

end Aggregation.Text
