/-
**What is assembled, and the hooks that are added to it.**

The storage options of valid settings can be installed (`check_storageOf`), so only the names and
the transport can still fail once settings are valid (`makeWith_of_valid`). An assembly that is made
has the settings and storage options that it was asked for and none of the embedder's hooks
(`makeWith_eq_ok_iff`). Hooks of different names that are not taken can all be added
(`addAll_eq_ok`).
-/

import Aggregation.Proofs.Settings.Validation
import Aggregation.Server
import Mathlib.Data.List.Basic

namespace Aggregation

namespace Assembly

/-- **The storage options of valid settings can be installed.** -/
theorem check_storageOf {settings : Settings} (valid : settings.problems = []) :
    (storageOf settings).check = .ok () := by
  have rooted : (storageOf settings).keyPrefix.toList.head? = some '/' :=
    of_decide_eq_true (Settings.isRooted_storagePrefix valid)
  unfold StorageOptions.check
  rw [if_neg (not_not.mpr rooted)]
  rfl

theorem install_storageOf {settings : Settings} (valid : settings.problems = [])
    (options : ServerOptions) : options.install (storageOf settings) =
      .ok { options with storage := some (storageOf settings) } := by
  rw [ServerOptions.install, check_storageOf valid]

/-- The assembly of some settings with what was found in files. -/
def assembled (shared : ServerOptions) (settings : Settings) (names : NameTable)
    (transport : Transport) : Assembly :=
  ⟨{ shared.workingCopy with storage := some (storageOf settings) }, settings, storageOf settings,
    names, transport⟩

/-- **Once settings are valid, only names and transport can fail**, the names first. -/
theorem makeWith_of_valid (library : ClientLibrary) (shared : ServerOptions) {settings : Settings}
    (files : Directory) (valid : settings.validate = .ok settings) :
    makeWith library shared settings files =
      (loadNames settings.nameMappings files).mapError .names >>= fun names =>
        (Transport.buildWith library settings.transport files false).mapError .transport >>=
          fun transport => .ok (assembled shared settings names transport) := by
  have installed :=
    install_storageOf (Settings.validate_eq_ok_iff.mp valid).1 shared.workingCopy
  unfold makeWith
  rw [valid]
  show (shared.workingCopy.install (storageOf settings)).mapError AssemblyError.storage >>= _ = _
  rw [installed]
  rfl

/-- **When an assembly is made, and what it is made of.** -/
theorem makeWith_eq_ok_iff {library : ClientLibrary} {shared : ServerOptions} {settings : Settings}
    {files : Directory} {assembly : Assembly} :
    makeWith library shared settings files = .ok assembly ↔
      settings.problems = [] ∧ (storageOf settings).check = .ok () ∧
        loadNames settings.nameMappings files = .ok assembly.names ∧
        Transport.buildWith library settings.transport files false = .ok assembly.transport ∧
        assembly = ⟨{ shared.workingCopy with storage := some (storageOf settings) }, settings,
          storageOf settings, assembly.names, assembly.transport⟩ := by
  cases validated : settings.validate with
  | error problems =>
    have invalid : settings.problems ≠ [] := by
      intro none
      rw [Settings.validate_eq_ok_iff.mpr ⟨none, rfl⟩] at validated
      cases validated
    simp [makeWith, validated, invalid, bind, Except.bind, Except.mapError]
  | ok valid =>
    obtain ⟨none, rfl⟩ := Settings.validate_eq_ok_iff.mp validated
    rw [makeWith_of_valid library shared files validated]
    cases loadNames settings.nameMappings files with
    | error error => simp [bind, Except.bind, Except.mapError]
    | ok names =>
      cases Transport.buildWith library settings.transport files false with
      | error error => simp [bind, Except.bind, Except.mapError]
      | ok transport =>
        simp only [none, check_storageOf none, bind, Except.bind, Except.mapError, Except.ok.injEq,
          true_and]
        constructor
        · rintro rfl
          exact ⟨rfl, rfl, rfl⟩
        · rintro ⟨rfl, rfl, same⟩
          exact same.symm

end Assembly

namespace PostStartHooks

variable {α : Type}

/-- A hook is added under a name that is not taken. -/
theorem add_eq_ok {registry : PostStartHooks α} {name : String} (free : name ∉ registry.hooks.keys)
    (hook : α) :
    registry.add name hook = .ok { registry with hooks := registry.hooks.insert name hook } := by
  rw [add, if_neg fun taken => free ((Table.contains_iff _ name).mp taken)]

end PostStartHooks

/-- Hooks of different names that are not taken are all added. -/
theorem StartHook.addAll_eq_ok {added : List (String × StartHook)}
    {hooks : PostStartHooks StartHook}
    (distinct : (hooks.hooks.keys ++ added.map Prod.fst).Nodup) :
    ∃ all, addAll hooks added = .ok all ∧
      all.hooks.keys = hooks.hooks.keys ++ added.map Prod.fst := by
  induction added generalizing hooks with
  | nil => exact ⟨hooks, rfl, by simp⟩
  | cons entry rest ih =>
    have free : entry.1 ∉ hooks.hooks.keys := fun taken =>
      (List.nodup_append.mp distinct).2.2 _ taken _ List.mem_cons_self rfl
    have keys := Table.keys_insert free entry.2
    have later : ((hooks.hooks.insert entry.1 entry.2).keys ++ rest.map Prod.fst).Nodup := by
      rw [keys, List.append_assoc]
      exact distinct
    obtain ⟨all, done, names⟩ := @ih ⟨hooks.hooks.insert entry.1 entry.2, hooks.disabled⟩ later
    refine ⟨all, ?_, by rw [names, keys, List.append_assoc]; rfl⟩
    rw [addAll, List.foldlM_cons, PostStartHooks.add_eq_ok free]
    exact done

end Aggregation
