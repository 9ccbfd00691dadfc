/-
**The order and the paths of identities.**

Identities are compared by group and then by version, so their order is a total one: comparing is
transitive, and only an identity compares equal to itself. An ascending list names each of its
identities once.

A listed path names an identity exactly if it is the path of that identity and the identity is the
core API or has a group and a version that can be told apart in a path (`ofPath?_eq_some_iff`). So
paths and the identities that they name determine each other (`bijOn_path`).
-/

import Aggregation.Identity
import Aggregation.Proofs.Text.Split
import Mathlib.Data.Set.Function

namespace Aggregation

namespace Identity

instance : Std.TransOrd Identity :=
  inferInstanceAs
    (Std.TransCmp (compareLex (compareOn Identity.group) (compareOn Identity.version)))

instance : Std.LawfulEqOrd Identity where
  eq_of_compare {a b} equal := by
    rw [compare_eq, Ordering.then_eq_eq] at equal
    have group : a.group = b.group := Std.LawfulEqOrd.eq_of_compare equal.1
    have version : a.version = b.version := Std.LawfulEqOrd.eq_of_compare equal.2
    rcases a
    rcases b
    cases group
    cases version
    rfl

/-- Every identity comes strictly before all later ones. -/
def Ascending (identities : List Identity) : Prop :=
  identities.Pairwise fun a b => compare a b = .lt

/-- An ascending list has no doubles. -/
theorem Ascending.nodup {identities : List Identity} (ascending : Ascending identities) :
    identities.Nodup := by
  refine ascending.imp fun {a b} before same => ?_
  rw [same, Std.compare_self] at before
  cases before

/-! ### Listed paths -/

/-- Whether a text can be the group or the version in a path. -/
def IsPart (text : String) : Prop := text ≠ "" ∧ '/' ∉ text.toList

/-- Whether an identity is the core API, or a group and a version that a path can hold. -/
def Listable (identity : Identity) : Prop :=
  identity = core ∨ IsPart identity.group ∧ IsPart identity.version

theorem toList_path {identity : Identity} (some : identity.group ≠ "") :
    identity.path.toList = ['/'].intercalate
      [[], "apis".toList, identity.group.toList, identity.version.toList] := by
  have slash : "/apis/".toList = '/' :: ("apis".toList ++ ['/']) := by decide
  simp [path, some, slash]

/-- The parts of a group's path, cut at its slashes. -/
theorem splitOn_path_iff {path : String} {identity : Identity} (group : IsPart identity.group)
    (version : IsPart identity.version) :
    path.toList.splitOn '/' =
        [[], "apis".toList, identity.group.toList, identity.version.toList] ↔
      path = identity.path := by
  have undivided : ∀ part ∈ [[], "apis".toList, identity.group.toList, identity.version.toList],
      '/' ∉ part := by
    simp [group.2, version.2]
  rw [Text.splitOn_eq_iff (by simp), ← toList_path group.1, String.toList_inj]
  exact and_iff_left undivided

/-- A path names the identity whose path it is, if that can be listed. -/
theorem ofPath?_eq_some_iff {path : String} {identity : Identity} :
    ofPath? path = some identity ↔ identity.Listable ∧ path = identity.path := by
  have threeParts : ("/api/v1".toList.splitOn '/').length = 3 := by decide +kernel
  constructor
  · intro found
    unfold ofPath? at found
    split at found
    · next isCore =>
      cases found
      exact ⟨.inl rfl, isCore⟩
    · split at found
      · next group version parts =>
        split at found
        · cases found
        · next some =>
          cases found
          have undivided (part : List Char) (member : part ∈ path.toList.splitOn '/') :
              '/' ∉ part := Text.notMem_of_mem_splitOn member
          rw [parts] at undivided
          simp only [Bool.or_eq_true, List.isEmpty_iff, not_or] at some
          have groupPart : IsPart (String.ofList group) :=
            ⟨by simpa using some.1, by simpa using undivided group (by simp)⟩
          have versionPart : IsPart (String.ofList version) :=
            ⟨by simpa using some.2, by simpa using undivided version (by simp)⟩
          exact ⟨.inr ⟨groupPart, versionPart⟩,
            (splitOn_path_iff groupPart versionPart).mp (by simpa using parts)⟩
      · cases found
  · rintro ⟨rfl | ⟨group, version⟩, same⟩
    · subst same
      rfl
    · have parts := (splitOn_path_iff group version).mpr same
      have notCore : path ≠ "/api/v1" := by
        rintro rfl
        rw [parts] at threeParts
        simp at threeParts
      simp [ofPath?, notCore, parts, group.1, version.1]

/-- **Paths and identities are inverse.** A text names an identity exactly if it is the path of that
identity, and the identity is the core API or has a group and a version that are not empty and hold
no slash. So identities that are named have different paths, which are all the texts that name
anything, and what a text names gives the text back. -/
theorem bijOn_path :
    (∀ text identity, ofPath? text = some identity ↔
      text = identity.path ∧
        (identity = core ∨ IsPart identity.group ∧ IsPart identity.version)) ∧
      Set.BijOn path {identity | ∃ text, ofPath? text = some identity}
        {text | (ofPath? text).isSome} ∧
      ∀ text, ofPath? text = none ∨ (ofPath? text).map path = some text := by
  have exact (text : String) (identity : Identity) :
      ofPath? text = some identity ↔ text = identity.path ∧ identity.Listable := by
    rw [ofPath?_eq_some_iff]
    exact and_comm
  -- An identity that is named by some text is named by its own path.
  have named {identity : Identity} (known : ∃ text, ofPath? text = some identity) :
      ofPath? identity.path = some identity := by
    obtain ⟨text, names⟩ := known
    obtain ⟨rfl, -⟩ := (exact text identity).mp names
    exact names
  refine ⟨exact, ⟨?_, ?_, ?_⟩, ?_⟩
  · intro identity known
    show (ofPath? identity.path).isSome = true
    rw [named known]
    rfl
  · intro first own second other same
    have both : ofPath? second.path = some first := by
      rw [← same]
      exact named own
    rw [named other] at both
    exact (Option.some.inj both).symm
  · intro text known
    obtain ⟨identity, names⟩ := Option.isSome_iff_exists.mp known
    exact ⟨identity, ⟨text, names⟩, ((exact text identity).mp names).1.symm⟩
  · intro text
    rcases names : ofPath? text with _ | identity
    · exact Or.inl rfl
    · exact Or.inr (congrArg some ((exact text identity).mp names).1.symm)

/-- Identities that no path names can share one. -/
example : (⟨"apps/beta", "v1"⟩ : Identity).path = (⟨"apps", "beta/v1"⟩ : Identity).path := by decide

end Identity

end Aggregation
