/-
**Segments as a path keeps them.**

Reading a path leaves segments that a second reading would not change: each is percent-encoded
already, holds no slash and is no dot segment. So a written path is read back segment by segment,
and text behind it is read as if it had been added to those segments.

This is so for every scheme but `file`, whose first segment may be read as a drive letter and cut in
two.
-/

import Aggregation.Proofs.Text.Percent
import Aggregation.Proofs.Text.Split
import Aggregation.Url.Path

namespace Aggregation.UrlPath

open Text (Percent.spares Percent.marks)

/-- A segment that reading a path leaves as it is. -/
structure IsSegment (kind : SchemeKind) (segment : String) : Prop where
  encoded : ∀ c ∈ segment.toList, Percent.spares inPathSet c = true
  undivided : ∀ c ∈ segment.toList, isSlash kind c = false
  notDot : isDot segment.toList = false
  notDoubleDot : isDoubleDot segment.toList = false

variable {kind : SchemeKind} {segments : List String} {piece : List Char}

theorem IsSegment.empty (kind : SchemeKind) : IsSegment kind "" where
  encoded := by simp
  undivided := by simp
  notDot := by decide +kernel
  notDoubleDot := by decide +kernel

theorem IsSegment.slash_notMem {segment : String} (normal : IsSegment kind segment) :
    '/' ∉ segment.toList := by
  intro slash
  simpa [isSlash] using normal.undivided '/' slash

/-- What encoding makes of a piece is a segment, unless it is a dot piece. -/
theorem isSegment_encode (undivided : ∀ c ∈ piece, isSlash kind c = false)
    (notDot : isDot (Text.Percent.encode inPathSet piece) = false)
    (notDoubleDot : isDoubleDot (Text.Percent.encode inPathSet piece) = false) :
    IsSegment kind (String.ofList (Text.Percent.encode inPathSet piece)) where
  encoded c member := by
    have spared : Percent.marks.all (Percent.spares inPathSet) = true := by decide +kernel
    rw [String.toList_ofList] at member
    rcases Text.Percent.mem_encode member with ⟨-, kept⟩ | mark
    · exact kept
    · exact List.all_eq_true.mp spared c mark
  undivided c member := by
    have whole : Percent.marks.all (fun mark => !isSlash kind mark) = true := by
      rcases kind with _ | _ | _ <;> decide +kernel
    rw [String.toList_ofList] at member
    rcases Text.Percent.mem_encode member with ⟨inPiece, -⟩ | mark
    · exact undivided c inPiece
    · simpa using List.all_eq_true.mp whole c mark
  notDot := by rwa [String.toList_ofList]
  notDoubleDot := by rwa [String.toList_ofList]

/-! ### Pieces -/

theorem pieces_ne_nil (kind : SchemeKind) (text : List Char) : pieces kind text ≠ [] :=
  List.splitOnP_ne_nil _ _

theorem undivided_of_mem_pieces {text : List Char} (member : piece ∈ pieces kind text) :
    ∀ c ∈ piece, isSlash kind c = false :=
  Text.undivided_of_mem_splitOnP member

/-! ### Adding pieces -/

/-- What one piece does to segments where there are no drive letters. -/
theorem add_eq (notFile : kind ≠ .file) (last : Bool) (segments : List String)
    (piece : List Char) :
    add kind last segments piece =
      if isDoubleDot (Text.Percent.encode inPathSet piece) then
        if last then shorten segments ++ [""] else shorten segments
      else if isDot (Text.Percent.encode inPathSet piece) then
        if last then segments ++ [""] else segments
      else segments ++ [String.ofList (Text.Percent.encode inPathSet piece)] := by
  simp [add, notFile]

theorem add_segment (notFile : kind ≠ .file) {segment : String} (normal : IsSegment kind segment) :
    add kind false segments segment.toList = segments ++ [segment] := by
  simp [add_eq notFile, Text.Percent.encode_of_spares normal.encoded, normal.notDot,
    normal.notDoubleDot]

/-- Pieces before others are added first, none of them as the last. -/
theorem addAll_append (kind : SchemeKind) (segments : List String) (first : List (List Char))
    {rest : List (List Char)} (some : rest ≠ []) :
    addAll kind segments (first ++ rest) =
      addAll kind (first.foldl (add kind false) segments) rest := by
  induction first generalizing segments with
  | nil => rfl
  | cons piece first ih =>
    -- `addAll` treats its last piece differently, so it has to be seen that more follow this one.
    have more : first ++ rest ≠ [] := by simp [some]
    obtain ⟨next, others, split⟩ := List.exists_cons_of_ne_nil more
    rw [List.cons_append, split, addAll, ← split, ih, List.foldl_cons]
    simp

theorem foldl_add_segments (notFile : kind ≠ .file) {written : List String}
    (normal : ∀ segment ∈ written, IsSegment kind segment) (segments : List String) :
    (written.map String.toList).foldl (add kind false) segments = segments ++ written := by
  induction written generalizing segments with
  | nil => simp
  | cons segment written ih =>
    rw [List.map_cons, List.foldl_cons, add_segment notFile (normal segment List.mem_cons_self),
      ih fun later member => normal later (List.mem_cons_of_mem segment member)]
    simp

/-! ### What reading leaves -/

theorem mem_of_mem_shorten {segment : String} (member : segment ∈ shorten segments) :
    segment ∈ segments := by
  unfold shorten at member
  split at member
  · simp at member
  · split at member
    · exact member
    · exact List.dropLast_subset segments member

theorem isSegment_of_mem_add (notFile : kind ≠ .file) {last : Bool}
    (undivided : ∀ c ∈ piece, isSlash kind c = false)
    (normal : ∀ segment ∈ segments, IsSegment kind segment) :
    ∀ segment ∈ add kind last segments piece, IsSegment kind segment := by
  intro segment member
  -- A dot piece at the end adds an empty segment, which is one like any other.
  have closed {kept : List String} (found : segment ∈ if last then kept ++ [""] else kept)
      (within : ∀ segment ∈ kept, IsSegment kind segment) : IsSegment kind segment := by
    split at found
    · rcases List.mem_append.mp found with inKept | new
      · exact within segment inKept
      · obtain rfl := List.mem_singleton.mp new
        exact .empty kind
    · exact within segment found
  rw [add_eq notFile] at member
  split at member
  · exact closed member fun segment found => normal segment (mem_of_mem_shorten found)
  · next notDoubleDot =>
    split at member
    · exact closed member normal
    · next notDot =>
      rcases List.mem_append.mp member with old | new
      · exact normal segment old
      · obtain rfl := List.mem_singleton.mp new
        exact isSegment_encode undivided (Bool.eq_false_iff.mpr notDot)
          (Bool.eq_false_iff.mpr notDoubleDot)

theorem isSegment_of_mem_addAll (notFile : kind ≠ .file) {added : List (List Char)}
    (undivided : ∀ piece ∈ added, ∀ c ∈ piece, isSlash kind c = false)
    (normal : ∀ segment ∈ segments, IsSegment kind segment) :
    ∀ segment ∈ addAll kind segments added, IsSegment kind segment := by
  fun_induction addAll kind segments added with
  | case1 segments => exact normal
  | case2 segments piece =>
    exact isSegment_of_mem_add notFile (undivided piece (by simp)) normal
  | case3 segments piece rest _ ih =>
    exact ih (fun later member => undivided later (List.mem_cons_of_mem piece member))
      (isSegment_of_mem_add notFile (undivided piece (by simp)) normal)

/-- Reading a path leaves segments only. -/
theorem isSegment_of_mem_ofText (notFile : kind ≠ .file) {text : List Char} :
    ∀ segment ∈ ofText kind text, IsSegment kind segment := by
  have extended (rest : List Char) : ∀ segment ∈ extend kind [] rest, IsSegment kind segment := by
    unfold extend
    rw [if_neg notFile]
    exact isSegment_of_mem_addAll notFile (fun piece member => undivided_of_mem_pieces member)
      (by simp)
  unfold ofText
  split
  · split
    · simpa using IsSegment.empty kind
    · simp
  · split
    · exact extended _
    · exact extended _

end Aggregation.UrlPath
