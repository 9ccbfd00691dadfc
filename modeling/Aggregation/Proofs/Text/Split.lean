/-
**Texts cut at separators.**

No part of a text that was cut holds a separator, and a text that is put together from such parts
with separators between them is cut into the same parts again.
-/

import Mathlib.Data.List.Basic

namespace Aggregation.Text

variable {α : Type}

/-- No part of a list that was cut holds a separator. -/
theorem undivided_of_mem_splitOnP {separates : α → Bool} {text part : List α}
    (member : part ∈ text.splitOnP separates) : ∀ c ∈ part, separates c = false := by
  induction text generalizing part with
  | nil => simp_all
  | cons c rest ih =>
    rw [List.splitOnP_cons_eq_if_modifyHead] at member
    split at member
    · rcases List.mem_cons.mp member with rfl | later
      · simp
      · exact ih later
    · next within =>
      obtain ⟨first, others, cut⟩ :=
        List.exists_cons_of_ne_nil (List.splitOnP_ne_nil separates rest)
      rw [cut] at member ih
      rcases List.mem_cons.mp member with rfl | later
      · simpa [within] using ih List.mem_cons_self
      · exact ih (List.mem_cons_of_mem _ later)

variable [DecidableEq α]

theorem notMem_of_mem_splitOn {separator : α} {text part : List α}
    (member : part ∈ text.splitOn separator) : separator ∉ part := by
  rw [List.splitOn_eq_splitOnP] at member
  intro inside
  simpa using undivided_of_mem_splitOnP member separator inside

/-- The parts of a list are those it was put together from. -/
theorem splitOn_eq_iff {separator : α} {text : List α} {parts : List (List α)} (some : parts ≠ []) :
    text.splitOn separator = parts ↔
      text = [separator].intercalate parts ∧ ∀ part ∈ parts, separator ∉ part := by
  constructor
  · rintro rfl
    exact ⟨(List.intercalate_splitOn separator).symm, fun _ => notMem_of_mem_splitOn⟩
  · rintro ⟨rfl, undivided⟩
    exact List.splitOn_intercalate separator undivided some

/-- What stands before the first separator. -/
theorem takeWhile_part {separator : α} {part behind : List α} (undivided : separator ∉ part)
    (separated : behind = [] ∨ ∃ rest, behind = separator :: rest) :
    (part ++ behind).takeWhile (· ≠ separator) = part := by
  rw [List.takeWhile_append_of_pos fun c member => by
    simpa using ne_of_mem_of_not_mem member undivided]
  rcases separated with rfl | ⟨rest, rfl⟩ <;> simp

end Aggregation.Text
