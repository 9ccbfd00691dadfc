/-
**Every list of parameters can be asked for.**

A name or a value can be written with all of its bytes as triplets. Nothing that is written so holds
a character with a meaning of its own in a form, so each list of pairs is read back from the query
that it is written as (`pairs_write`).
-/

import Aggregation.Proofs.Text.Percent
import Aggregation.Proofs.Text.Split
import Aggregation.Text.Form

namespace Aggregation.Text.Form

/-- A name or a value, with all of its bytes as triplets. -/
def writePiece (text : String) : List Char :=
  (Utf8.encode text.toList).flatMap Percent.triplet

/-- A pair as it can be written. -/
def writePair (parameter : String × String) : List Char :=
  writePiece parameter.1 ++ '=' :: writePiece parameter.2

/-- A query that holds the given pairs. -/
def write (parameters : List (String × String)) : String :=
  String.ofList (['&'].intercalate (parameters.map writePair))

theorem notMem_writePiece {c : Char} (plain : c ∉ Percent.marks) (text : String) :
    c ∉ writePiece text := by
  intro member
  obtain ⟨byte, -, written⟩ := List.mem_flatMap.mp member
  exact plain (Percent.mem_marks_of_mem_triplet written)

theorem decodePiece_writePiece (text : String) : decodePiece (writePiece text) = text := by
  have noPlus : (writePiece text).map (fun c => if c = '+' then ' ' else c) = writePiece text := by
    have plain : '+' ∉ writePiece text := notMem_writePiece (by decide) text
    have kept : ∀ c ∈ writePiece text, (if c = '+' then ' ' else c) = c :=
      fun c member => if_neg (ne_of_mem_of_not_mem member plain)
    rw [List.map_congr_left kept, List.map_id']
  unfold decodePiece
  rw [noPlus, writePiece, Percent.decode_flatMap_triplet, Utf8.decodeLossy_encode,
    String.ofList_toList]

theorem pair_writePair (parameter : String × String) : pair (writePair parameter) = parameter := by
  have undivided : '=' ∉ writePiece parameter.1 := notMem_writePiece (by decide) _
  have name : (writePair parameter).takeWhile (· ≠ '=') = writePiece parameter.1 :=
    takeWhile_part undivided (.inr ⟨_, rfl⟩)
  have value : ((writePair parameter).dropWhile (· ≠ '=')).drop 1 = writePiece parameter.2 := by
    unfold writePair
    rw [List.dropWhile_append_of_pos fun c member => by
      simpa using ne_of_mem_of_not_mem member undivided]
    simp
  unfold pair
  rw [name, value, decodePiece_writePiece, decodePiece_writePiece]

/-- **Every list of pairs is that of some query.** -/
theorem pairs_write (parameters : List (String × String)) :
    pairs (write parameters) = parameters := by
  rcases eq_or_ne parameters [] with rfl | given
  · rfl
  · have undivided : ∀ piece ∈ parameters.map writePair, '&' ∉ piece := by
      intro piece member
      obtain ⟨parameter, -, rfl⟩ := List.mem_map.mp member
      simp [writePair, notMem_writePiece (show '&' ∉ Percent.marks by decide)]
    have pieces : (write parameters).toList.splitOn '&' = parameters.map writePair := by
      rw [write, String.toList_ofList]
      exact List.splitOn_intercalate '&' undivided (by simpa using given)
    have kept : ∀ piece ∈ parameters.map writePair, (!piece.isEmpty) = true := by
      intro piece member
      obtain ⟨parameter, -, rfl⟩ := List.mem_map.mp member
      simp [writePair]
    rw [pairs, pieces, List.filter_eq_self.mpr kept, List.map_map]
    exact (List.map_congr_left fun parameter _ => pair_writePair parameter).trans (List.map_id' _)

end Aggregation.Text.Form
