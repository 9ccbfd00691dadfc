/-
**Written paths.**

A path is written as its segments with a slash in front of each. As long as no segment holds a
slash, everything about the text can be said about the segments: reading it again gives them back
(`ofText_written`), slashes at its end are empty segments at their end (`rdropWhile_written`), and
it starts another written path, with a slash behind it, exactly if the segments do and the other
path has more of them (`written_isPrefix_iff`).
-/

import Aggregation.Proofs.Url.Path
import Mathlib.Data.List.DropRight

namespace Aggregation.UrlPath

variable {kind : SchemeKind} {segments : List String}

/-- Segments as they are written. -/
def written (segments : List String) : List Char :=
  segments.flatMap fun segment => '/' :: segment.toList

theorem toList_display (segments : List String) :
    (UrlPath.segments segments).display.toList = written segments := by
  have joined (texts : List (List Char)) : [].intercalate texts = texts.flatten := by
    induction texts with
    | nil => rfl
    | cons text texts ih =>
      rcases eq_or_ne texts [] with rfl | more
      · simp
      · rw [List.intercalate_cons_of_ne_nil more, ih]
        simp
  simp only [display, String.toList_intercalate, String.toList_empty, joined, List.map_map,
    written, List.flatMap_def]
  congr 2
  funext segment
  simp

/-- The pieces of a written path with text in front of it and behind it. -/
theorem pieces_written (normal : ∀ segment ∈ segments, IsSegment kind segment) {first : List Char}
    (undivided : ∀ c ∈ first, isSlash kind c = false) (rest : List Char) :
    pieces kind (first ++ written segments ++ '/' :: rest) =
      first :: segments.map String.toList ++ pieces kind rest := by
  have slash : isSlash kind '/' = true := by simp [isSlash]
  induction segments generalizing first with
  | nil =>
    simpa [written, pieces] using
      List.splitOnP_append_cons_of_forall_mem undivided '/' slash rest
  | cons segment segments ih =>
    have here := List.splitOnP_append_cons_of_forall_mem undivided '/' slash
      (segment.toList ++ written segments ++ '/' :: rest)
    have later := ih (fun later member => normal later (List.mem_cons_of_mem segment member))
      (normal segment List.mem_cons_self).undivided
    unfold pieces at later ⊢
    rw [later] at here
    simpa [written] using here

/-- Reading a written path and text behind it adds the pieces of that text to its segments. -/
theorem ofText_written (notFile : kind ≠ .file)
    (normal : ∀ segment ∈ segments, IsSegment kind segment) (rest : List Char) :
    ofText kind (written segments ++ '/' :: rest) = addAll kind segments (pieces kind rest) := by
  have slash : isSlash kind '/' = true := by simp [isSlash]
  cases segments with
  | nil => simp [written, ofText, slash, extend, notFile]
  | cons segment segments =>
    have cut := pieces_written (fun later member => normal later (List.mem_cons_of_mem _ member))
      (normal segment List.mem_cons_self).undivided rest
    have path : written (segment :: segments) ++ '/' :: rest =
        '/' :: (segment.toList ++ written segments ++ '/' :: rest) := by simp [written]
    rw [path, ofText, if_pos slash, extend, if_neg notFile, cut, ← List.map_cons,
      addAll_append kind [] _ (pieces_ne_nil kind rest), foldl_add_segments notFile normal]
    rfl

/-- Without its slashes at the end, a written path has no empty segments at the end. -/
theorem rdropWhile_written (undivided : ∀ segment ∈ segments, '/' ∉ segment.toList) :
    (written segments).rdropWhile (· = '/') = written (segments.rdropWhile (· = "")) := by
  induction segments using List.reverseRecOn with
  | nil => rfl
  | append_singleton segments last ih =>
    have before := ih fun segment member => undivided segment (List.mem_append_left _ member)
    have path : written (segments ++ [last]) = written segments ++ '/' :: last.toList := by
      simp [written]
    rcases eq_or_ne last "" with rfl | some
    · rw [path, String.toList_empty, List.rdropWhile_concat_pos _ _ _ (by simp), before,
        List.rdropWhile_concat_pos _ _ _ (by simp)]
    · have someChars : last.toList ≠ [] := by simpa using some
      obtain ⟨start, c, chars⟩ := (List.eq_nil_or_concat' last.toList).resolve_left someChars
      have notSlash : c ≠ '/' := by
        rintro rfl
        exact undivided last (by simp) (by simp [chars])
      rw [List.rdropWhile_concat_neg _ _ _ (by simpa using some), path, chars, ← List.cons_append,
        ← List.append_assoc, List.rdropWhile_concat_neg _ _ _ (by simpa using notSlash)]

theorem written_cons_append (segment : String) (segments : List String) (rest : List Char) :
    written (segment :: segments) ++ rest =
      '/' :: (segment.toList ++ (written segments ++ rest)) := by
  simp [written]

/-- A segment that a slash or nothing follows is the one of the path that goes on the same way. -/
theorem segment_eq_of_written_isPrefix {segment other : String} {outer inner : List String}
    (undivided : '/' ∉ segment.toList) (otherUndivided : '/' ∉ other.toList)
    (within : written (segment :: outer) ++ ['/'] <+: written (other :: inner)) :
    segment = other := by
  obtain ⟨rest, same⟩ := within
  -- Both texts go on with a slash or end, so each segment is what stands before the first slash.
  have led (segments : List String) :
      written segments = [] ∨ ∃ rest, written segments = '/' :: rest := by
    cases segments <;> simp [written]
  have behind : ∃ more, written outer ++ (['/'] ++ rest) = '/' :: more := by
    rcases led outer with none | ⟨more, some⟩
    · exact ⟨rest, by simp [none]⟩
    · exact ⟨more ++ (['/'] ++ rest), by simp [some]⟩
  rw [← List.append_nil (written (other :: inner)), List.append_assoc, written_cons_append,
    written_cons_append, List.append_nil, List.cons.injEq] at same
  have cut := congrArg (List.takeWhile (· ≠ '/')) same.2
  rw [Text.takeWhile_part undivided (.inr behind),
    Text.takeWhile_part otherUndivided (led inner)] at cut
  exact String.toList_inj.mp cut

/-- A written path with a slash behind it starts another one exactly if its segments do, and the
other has more of them. -/
theorem written_isPrefix_iff {outer inner : List String}
    (undivided : ∀ segment ∈ outer, '/' ∉ segment.toList)
    (innerUndivided : ∀ segment ∈ inner, '/' ∉ segment.toList) :
    written outer ++ ['/'] <+: written inner ↔ ∃ first rest, inner = outer ++ first :: rest := by
  constructor
  · intro within
    -- Segment by segment along the shorter path; the slash behind it asks for one segment more.
    induction outer generalizing inner with
    | nil =>
      cases inner with
      | nil => simp [written] at within
      | cons first rest => exact ⟨first, rest, rfl⟩
    | cons segment outer ih =>
      cases inner with
      | nil => simp [written] at within
      | cons other inner =>
        obtain rfl : segment = other := segment_eq_of_written_isPrefix
          (undivided segment List.mem_cons_self) (innerUndivided other List.mem_cons_self) within
        have behind : written outer ++ ['/'] <+: written inner := by
          simpa [written, List.prefix_append_right_inj] using within
        obtain ⟨first, rest, rfl⟩ :=
          ih (fun later member => undivided later (List.mem_cons_of_mem _ member))
            (fun later member => innerUndivided later (List.mem_cons_of_mem _ member)) behind
        exact ⟨first, rest, rfl⟩
  · rintro ⟨first, rest, rfl⟩
    exact ⟨first.toList ++ written rest, by simp [written]⟩

end Aggregation.UrlPath
