/-
**What valid settings may be relied on for.**

Settings without problems are valid as they are (`validate_eq_ok_iff`), and their storage prefix is
rooted (`isRooted_storagePrefix`). The rules for the items of a list are given the items before. A
rule that finds something wrong with an item whose key came before leaves no key twice in a list
that it finds nothing wrong with (`nodup_of_itemwise`); so no two backends of valid settings have
the same group and version (`nodup_backends_of_valid`).
-/

import Aggregation.Settings.Validation
import Mathlib.Data.List.Nodup

namespace Aggregation.Settings

theorem whenever_eq_nil_iff {condition : Prop} [Decidable condition] {problem : Problem} :
    whenever condition problem = [] ↔ ¬condition := by
  unfold whenever
  split
  · next holds => simp [holds]
  · next fails => simp [fails]

/-- Validating changes no settings. -/
theorem validate_eq_ok_iff {settings validated : Settings} :
    settings.validate = .ok validated ↔ settings.problems = [] ∧ settings = validated := by
  unfold validate
  cases settings.problems with
  | nil => simp
  | cons problem others => simp

/-- The storage prefix of valid settings is rooted. -/
theorem isRooted_storagePrefix {settings : Settings} (valid : settings.problems = []) :
    isRooted settings.registry.storagePrefix = true := by
  have passed : whenever (¬isRooted settings.registry.storagePrefix = true)
      .relativeStoragePrefix = [] := by
    simp only [problems, List.append_eq_nil_iff] at valid
    tauto
  exact not_not.mp (whenever_eq_nil_iff.mp passed)

/-- A rule that lets no key come a second time leaves the keys different. -/
theorem nodup_of_itemwise {α β : Type} (key : α → β) {rule : Nat → List α → α → List Problem}
    (fresh : ∀ index before item, rule index before item = [] → key item ∉ before.map key)
    {index : Nat} {before items : List α} (passed : itemwise rule index before items = [])
    (distinct : (before.map key).Nodup) : ((before ++ items).map key).Nodup := by
  induction items generalizing index before with
  | nil =>
    rw [List.append_nil]
    exact distinct
  | cons first rest ih =>
    obtain ⟨now, later⟩ := List.append_eq_nil_iff.mp passed
    have extended : ((before ++ [first]).map key).Nodup := by
      rw [List.map_append, List.map_singleton, ← List.concat_eq_append]
      exact distinct.concat (fresh index before first now)
    have whole := ih later extended
    rwa [List.append_assoc] at whole

/-- The identity under which a configured backend is registered. -/
def BackendEntry.identity (entry : BackendEntry) : Identity := ⟨entry.group, entry.version⟩

theorem fresh_of_backendProblems {index : Nat} {before : List BackendEntry} {entry : BackendEntry}
    (passed : backendProblems index before entry = []) :
    entry.identity ∉ before.map BackendEntry.identity := by
  have unique := whenever_eq_nil_iff.mp (List.append_eq_nil_iff.mp passed).2
  intro known
  obtain ⟨other, listed, same⟩ := List.mem_map.mp known
  obtain ⟨group, version⟩ := Identity.mk.inj same
  exact unique ⟨other, listed, group, version⟩

/-- **Valid settings have no two backends of one identity.** -/
theorem nodup_backends_of_valid {settings : Settings} (valid : settings.problems = []) :
    (settings.backends.map BackendEntry.identity).Nodup := by
  have passed : itemwise backendProblems 0 [] settings.backends = [] := by
    simp only [problems, List.append_eq_nil_iff] at valid
    tauto
  exact nodup_of_itemwise BackendEntry.identity (fun _ _ _ => fresh_of_backendProblems) passed
    List.nodup_nil

end Aggregation.Settings
