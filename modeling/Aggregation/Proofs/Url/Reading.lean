/-
**What pieces do to the segments in front of them.**

A `..` takes back a segment that was added before it, or else one of those in front. How many of the
latter are taken back and what is left behind depends on the pieces alone: a `Reading` says it, and
reading the pieces behind any segments does what it says (`addAll_after`).
-/

import Aggregation.Proofs.Url.Path
import Mathlib.Logic.Function.Iterate

namespace Aggregation.UrlPath

/-- What pieces do: they take back a number of the segments in front of them, and leave segments
behind. -/
structure Reading where
  taken : Nat
  added : List String
deriving DecidableEq

namespace Reading

/-- Nothing has been read. -/
def start : Reading := ⟨0, []⟩

/-- The reading with an empty segment, if the piece was the last one. -/
def closedIf (last : Bool) (reading : Reading) : Reading :=
  if last then ⟨reading.taken, reading.added ++ [""]⟩ else reading

/-- Takes a segment back: the last one added, or else one of those in front. -/
def back (reading : Reading) : Reading :=
  if reading.added = [] then ⟨reading.taken + 1, []⟩ else ⟨reading.taken, shorten reading.added⟩

/-- Takes one piece into account; `last` says that no slash follows it. -/
def next (last : Bool) (reading : Reading) (piece : List Char) : Reading :=
  let piece := Text.Percent.encode inPathSet piece
  if isDoubleDot piece then reading.back.closedIf last
  else if isDot piece then reading.closedIf last
  else ⟨reading.taken, reading.added ++ [String.ofList piece]⟩

/-- Takes pieces into account in their order. -/
def ofPieces (reading : Reading) : List (List Char) → Reading
  | [] => reading
  | [piece] => reading.next true piece
  | piece :: rest => ofPieces (reading.next false piece) rest

/-- The segments that a reading makes of those in front of it. -/
def after (reading : Reading) (segments : List String) : List String :=
  shorten^[reading.taken] segments ++ reading.added

end Reading

variable {kind : SchemeKind} {segments : List String}

/-- Taking back goes no further than what was added last. -/
theorem shorten_append (segments : List String) {added : List String} (some : added ≠ []) :
    shorten (segments ++ added) = segments ++ shorten added := by
  obtain ⟨before, last, rfl⟩ := (List.eq_nil_or_concat' added).resolve_left some
  rw [← List.append_assoc]
  simp only [shorten, List.getLast?_concat, List.dropLast_concat]
  split
  · rw [List.append_assoc]
  · rfl

theorem shorten_isPrefix (segments : List String) : shorten segments <+: segments := by
  unfold shorten
  split
  · exact List.nil_prefix
  · split
    · exact List.prefix_refl segments
    · exact List.dropLast_prefix segments

theorem iterate_shorten_isPrefix (count : Nat) (segments : List String) :
    shorten^[count] segments <+: segments := by
  induction count with
  | zero => exact List.prefix_refl segments
  | succ count ih =>
    rw [Function.iterate_succ_apply']
    exact (shorten_isPrefix _).trans ih

theorem Reading.after_closedIf (last : Bool) (reading : Reading) (segments : List String) :
    (reading.closedIf last).after segments =
      if last then reading.after segments ++ [""] else reading.after segments := by
  cases last <;> simp [closedIf, after]

theorem Reading.after_back (reading : Reading) (segments : List String) :
    reading.back.after segments = shorten (reading.after segments) := by
  unfold back after
  split
  · next none => simp only [none, List.append_nil, Function.iterate_succ_apply']
  · next some => rw [shorten_append _ some]

/-- One piece does to the segments what its reading says. -/
theorem add_after (notFile : kind ≠ .file) (last : Bool) (reading : Reading)
    (segments : List String) (piece : List Char) :
    add kind last (reading.after segments) piece = (reading.next last piece).after segments := by
  rw [add_eq notFile]
  unfold Reading.next
  dsimp only
  split
  · rw [Reading.after_closedIf, Reading.after_back]
  · split
    · rw [Reading.after_closedIf]
    · simp [Reading.after]

/-- Pieces do to the segments what their reading says. -/
theorem addAll_after (notFile : kind ≠ .file) (reading : Reading) (segments : List String)
    (pieces : List (List Char)) :
    addAll kind (reading.after segments) pieces = (reading.ofPieces pieces).after segments := by
  -- `ofPieces` takes the pieces the way `addAll` does, the last one apart.
  fun_induction Reading.ofPieces reading pieces with
  | case1 reading => rfl
  | case2 reading piece => exact add_after notFile true reading segments piece
  | case3 reading piece rest more ih =>
    obtain ⟨next, others, rfl⟩ := List.exists_cons_of_ne_nil more
    rw [addAll, add_after notFile, ih]
    simp

/-- The last piece always leaves a segment. -/
theorem Reading.added_ofPieces_ne_nil (reading : Reading) {pieces : List (List Char)}
    (some : pieces ≠ []) : (reading.ofPieces pieces).added ≠ [] := by
  fun_induction Reading.ofPieces reading pieces with
  | case1 reading => exact absurd rfl some
  | case2 reading piece =>
    unfold Reading.next
    dsimp only
    split
    · simp [closedIf]
    · split <;> simp [closedIf]
  | case3 reading piece rest more ih => exact ih more

end Aggregation.UrlPath
