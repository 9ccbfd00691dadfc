/-
**What a URL that was read looks like.**

A URL of any scheme but `file` that came out of a text keeps its path in segments that a second
reading would not change.
-/

import Aggregation.Proofs.Url.Path
import Aggregation.Url.Parser

namespace Aggregation.Url

open UrlPath (IsSegment)

/-- Every segment of the path is as reading a path leaves it. -/
def Normal (url : Url) : Prop := ∀ segment ∈ segmentsOf url, IsSegment url.kind segment

variable {scheme : String} {text : List Char} {url : Url}

theorem normal_withText (notFile : SchemeKind.ofScheme scheme ≠ .file) (authority : Authority)
    (text : List Char) : (withText scheme authority text).Normal :=
  UrlPath.isSegment_of_mem_ofText notFile

/-- What follows an authority is the text of a path, a query and a fragment. -/
theorem afterSlashes_eq_ok (read : afterSlashes scheme text = .ok url) :
    ∃ authority rest, url = withText scheme authority rest := by
  unfold afterSlashes at read
  cases authority : parseAuthority scheme text with
  | error error => simp [authority, bind, Except.bind] at read
  | ok found =>
    simp only [authority, bind, Except.bind, pure, Except.pure, Except.ok.injEq] at read
    exact ⟨found.1, found.2, read.symm⟩

theorem parseOther_normal (kind : SchemeKind.ofScheme scheme = .other)
    (read : parseOther scheme text = .ok url) : url.Normal := by
  have notFile : SchemeKind.ofScheme scheme ≠ .file := by simp [kind]
  unfold parseOther at read
  split at read
  · obtain ⟨authority, rest, rfl⟩ := afterSlashes_eq_ok read
    exact normal_withText notFile authority rest
  · cases read
    exact normal_withText notFile .none _
  · cases read
    simp [Normal, segmentsOf]

theorem parseFileHost_scheme (read : parseFileHost text = .ok url) : url.scheme = "file" := by
  unfold parseFileHost at read
  simp only [bind, Except.bind, pure, Except.pure] at read
  split at read
  · cases read; rfl
  · split at read
    · cases read; rfl
    · split at read
      · cases read
      · cases read; rfl

theorem parseFile_scheme (read : parseFile text = .ok url) : url.scheme = "file" := by
  unfold parseFile at read
  split at read
  · split at read
    · exact parseFileHost_scheme read
    · cases read; rfl
  · cases read; rfl

/-- A URL that was read is normal. -/
theorem parse_normal {text : String} (read : parse text = .ok url) (notFile : url.kind ≠ .file) :
    url.Normal := by
  unfold parse at read
  split at read
  · next scheme rest _ =>
    unfold parseAfterScheme at read
    split at read
    · exact absurd (by simp [kind, parseFile_scheme read, SchemeKind.ofScheme]) notFile
    · next kind =>
      obtain ⟨authority, rest, rfl⟩ := afterSlashes_eq_ok read
      exact normal_withText (by simp [kind]) authority rest
    · next kind => exact parseOther_normal kind read
  · cases read

end Aggregation.Url
