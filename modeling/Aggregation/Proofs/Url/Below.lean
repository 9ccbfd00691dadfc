/-
**Where a request path ends up.**

The base path is meant to be kept as a prefix, but the joined path is read as a whole, so the `..`
pieces of a request take back segments of the base once those of the request are used up. A request
that takes nothing back stays below the base path, and one that does stays there exactly if it puts
the segments that it took back into their place again (`below_path`).
-/

import Aggregation.Proofs.Url.Parser
import Aggregation.Proofs.Url.Reading
import Aggregation.Proofs.Url.Written
import Aggregation.Url.Below

namespace Aggregation.Url

open UrlPath (Reading shorten written)

/-- The segments below which requests are put: those of the path without empty ones at the end. -/
def mount (base : Url) : List String := (segmentsOf base).rdropWhile (· = "")

/-- What a request path does to the segments below which it is put. -/
def climb (base : Url) (target : String) : Reading :=
  .ofPieces .start (UrlPath.pieces base.kind
    (withoutBreaks ((splitQuery target.toList).1.dropWhile (· = '/'))))

/-- The segments of a base that a request takes back. -/
def lost (base : Url) (target : String) : List String :=
  base.mount.drop (shorten^[(base.climb target).taken] base.mount).length

/-- Whether the path of a URL starts with the path of a base, without its slashes at the end, and a
slash. -/
def IsBelow (url base : Url) : Prop :=
  base.path.display.toList.rdropWhile (· = '/') ++ ['/'] <+: url.path.display.toList

variable {base : Url}

theorem display_eq_written (usable : base.canBeBase = true) :
    base.path.display.toList = written (segmentsOf base) := by
  unfold canBeBase at usable
  split at usable
  · next segments path =>
    rw [segmentsOf, path]
    exact UrlPath.toList_display segments
  · cases usable

theorem Normal.mount (normal : base.Normal) :
    ∀ segment ∈ base.mount, UrlPath.IsSegment base.kind segment :=
  fun segment member => normal segment ((List.rdropWhile_prefix _ _).subset member)

theorem rdropWhile_display (normal : base.Normal) (usable : base.canBeBase = true) :
    base.path.display.toList.rdropWhile (· = '/') = written base.mount := by
  rw [display_eq_written usable]
  exact UrlPath.rdropWhile_written fun segment member => (normal segment member).slash_notMem

theorem withoutBreaks_written {kind : SchemeKind} {segments : List String}
    (normal : ∀ segment ∈ segments, UrlPath.IsSegment kind segment) :
    withoutBreaks (written segments) = written segments := by
  refine List.filter_eq_self.mpr fun c member => ?_
  have tab : Text.Percent.spares UrlPath.inPathSet '\t' = false := by decide +kernel
  have newline : Text.Percent.spares UrlPath.inPathSet '\n' = false := by decide +kernel
  have carriageReturn : Text.Percent.spares UrlPath.inPathSet '\r' = false := by decide +kernel
  simp only [written, List.mem_flatMap, List.mem_cons] at member
  obtain ⟨segment, found, rfl | inSegment⟩ := member
  · decide
  · have spared := (normal segment found).encoded c inSegment
    rw [decide_eq_true_eq]
    refine ⟨?_, ?_, ?_⟩
    · rintro rfl
      simp [tab] at spared
    · rintro rfl
      simp [newline] at spared
    · rintro rfl
      simp [carriageReturn] at spared

/-- The path below a base is made of the base's segments and what the request does to them. -/
theorem ofText_pathBelow (normal : base.Normal) (usable : base.canBeBase = true)
    (notFile : base.kind ≠ .file) (target : String) :
    UrlPath.ofText base.kind (withoutBreaks (base.pathBelow (splitQuery target.toList).1)) =
      (base.climb target).after base.mount := by
  have joined (path : List Char) : withoutBreaks (base.pathBelow path) =
      written base.mount ++ '/' :: withoutBreaks (path.dropWhile (· = '/')) := by
    unfold pathBelow
    have front := rdropWhile_display normal usable
    unfold List.rdropWhile at front
    rw [front]
    have kept := withoutBreaks_written normal.mount
    unfold withoutBreaks at kept ⊢
    rw [List.filter_append, kept, List.filter_cons_of_pos (by decide)]
  have start : base.mount = Reading.start.after base.mount := by
    simp [Reading.start, Reading.after]
  rw [joined, UrlPath.ofText_written notFile normal.mount, start,
    UrlPath.addAll_after notFile, ← start]
  rfl

theorem below_eq (normal : base.Normal) (usable : base.canBeBase = true)
    (notFile : base.kind ≠ .file) (target : String) :
    ∃ url, base.below target = .ok url ∧
      url.path = .segments ((base.climb target).after base.mount) := by
  have path := ofText_pathBelow normal usable notFile target
  unfold canBeBase at usable
  split at usable
  · next segments given =>
    refine ⟨_, by rw [below, given], ?_⟩
    rw [← path]
  · cases usable

/-- A base's segments are those that a request leaves and those that it takes back. -/
theorem mount_eq (base : Url) (target : String) :
    base.mount = shorten^[(base.climb target).taken] base.mount ++ base.lost target :=
  (List.prefix_iff_eq_append.mp (UrlPath.iterate_shorten_isPrefix _ _)).symm

theorem added_climb_ne_nil (base : Url) (target : String) : (base.climb target).added ≠ [] :=
  Reading.added_ofPieces_ne_nil _ (UrlPath.pieces_ne_nil _ _)

/-- A request stays below a base exactly if it first puts back what it has taken. -/
theorem isBelow_iff (normal : base.Normal) (usable : base.canBeBase = true)
    (notFile : base.kind ≠ .file) {target : String} {url : Url}
    (path : url.path = .segments ((base.climb target).after base.mount)) :
    url.IsBelow base ↔
      ∃ first rest, (base.climb target).added = base.lost target ++ first :: rest := by
  have joined : ∀ segment ∈ (base.climb target).after base.mount, '/' ∉ segment.toList := by
    rw [← ofText_pathBelow normal usable notFile]
    exact fun segment member =>
      (UrlPath.isSegment_of_mem_ofText notFile segment member).slash_notMem
  have front : ∀ segment ∈ base.mount, '/' ∉ segment.toList :=
    fun segment member => (normal.mount segment member).slash_notMem
  unfold IsBelow
  rw [rdropWhile_display normal usable, path, UrlPath.toList_display,
    UrlPath.written_isPrefix_iff front joined]
  unfold Reading.after
  -- What is kept stands in front on both sides and cancels.
  have cut := mount_eq base target
  generalize shorten^[(base.climb target).taken] base.mount = kept at cut ⊢
  rw [cut]
  simp

/-- A request is put below the path of its base and stays there if it takes nothing back. One that
takes segments of the base back leaves the base, unless it puts the same ones into their place. -/
theorem below_path {text : String} (read : parse text = .ok base) (usable : base.canBeBase = true)
    (notFile : base.kind ≠ .file) (target : String) :
    ∃ url, base.below target = .ok url ∧
      url.path = .segments ((base.climb target).after base.mount) ∧
      ((base.climb target).taken = 0 → url.IsBelow base) ∧
      (url.IsBelow base ↔
        ∃ first rest, (base.climb target).added = base.lost target ++ first :: rest) := by
  have normal : base.Normal := parse_normal read notFile
  obtain ⟨url, found, path⟩ := below_eq normal usable notFile target
  have exactly := isBelow_iff normal usable notFile path
  refine ⟨url, found, path, fun nothing => exactly.mpr ?_, exactly⟩
  have kept : base.lost target = [] := by simp [lost, nothing]
  rw [kept]
  exact List.exists_cons_of_ne_nil (added_climb_ne_nil base target)

/-- In a `file` URL the first segment may be read as a drive letter and cut in two, so that a base
is left by a request that takes nothing back. -/
example : (parse "file:////C:foo").map Url.path = .ok (.segments ["C:foo"]) ∧
    ((parse "file:////C:foo").bind fun base => base.below "/x").map Url.path =
      .ok (.segments ["C:", "foo", "x"]) :=
  ⟨rfl, rfl⟩

/-- A base that has a path. -/
def mounted : Url :=
  ⟨"http", "", "", some (.ipv6 ⟨[0, 0, 0, 0, 0, 0, 0, 1]⟩), some 6443, .segments ["prefix"], none,
    none⟩

theorem parse_mounted : parse "http://[::1]:6443/prefix" = .ok mounted := rfl

/-- A request that takes a segment of its own back. -/
theorem below_path_mounted :
    ∃ url, mounted.below "/apis/../g" = .ok url ∧ url.IsBelow mounted := by
  obtain ⟨url, found, -, stays, -⟩ :=
    below_path parse_mounted (by decide) (by decide) "/apis/../g"
  exact ⟨url, found, stays (by decide +kernel)⟩

/-- A request that takes the segment of its base back. -/
theorem below_path_climbed :
    ∃ base url, parse "http://[::1]:6443/prefix" = .ok base ∧ base.canBeBase = true ∧
      base.below "/../admin" = .ok url ∧ ¬url.IsBelow base := by
  refine ⟨mounted, { mounted with path := .segments ["admin"] }, parse_mounted, by decide, rfl, ?_⟩
  unfold IsBelow
  decide +kernel

end Aggregation.Url
