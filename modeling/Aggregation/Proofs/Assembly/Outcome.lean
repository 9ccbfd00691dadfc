/-
**What becomes of assembling the aggregation layer.**

Assembling ends in one of four ways (`Becomes`). The settings are not valid, or the file of names
that they name does not yield its mappings, or the transport fails, each being the reason only if
the ones before it are not; or the assembly is made, of the settings, what the embedder shares and
what the files hold (`Made`). The storage options are never the reason, as their prefix was found
to be rooted when the settings were validated (`check_storageOf`).
-/

import Aggregation.Proofs.Assembly
import Aggregation.Proofs.Names
import Aggregation.Proofs.Transport

namespace Aggregation

open Settings (Mapping)

namespace Assembly

/-- The mappings that the settings' file adds to the configured ones, or why it does not; without a
file there are none. -/
inductive Adds (names : Settings.NameMappings) (files : Directory) :
    Except NameError (List Mapping) → Prop
  | nothing (unnamed : names.path = none) : Adds names files (.ok [])
  | file {path : String} {result : Except NameError (List Mapping)}
      (named : names.path = some path) (yields : NameTable.Yields (files.file path) result) :
      Adds names files result

/-- What an assembly is made of. -/
structure Made (shared : ServerOptions) (settings : Settings) (added : List Mapping)
    (identity : Option CredentialPair) (assembly : Assembly) : Prop where
  unchanged : assembly.settings = settings
  listener : assembly.options.listener = shared.listener
  /-- The embedder's hooks are not taken over. -/
  hooks : assembly.options.hooks.hooks = Table.empty
  /-- The names that the embedder disabled stay disabled. -/
  disabled : assembly.options.hooks.disabled = shared.hooks.disabled
  storage : assembly.storage =
    .forAggregator settings.registry.storagePrefix settings.registry.codec
  installed : assembly.options.storage = some assembly.storage
  names : NameTable.Tabulates (settings.nameMappings.mappings ++ added) assembly.names
  /-- The mappings of the file override the configured ones. -/
  overridden : ∀ name, assembly.names.get? name =
    (NameTable.addressIn? added name).or
      (NameTable.addressIn? settings.nameMappings.mappings name)
  transport : assembly.transport =
    ⟨settings.transport.skipHostnameVerification, identity.isSome, false⟩

/-- What becomes of assembling the aggregation layer. -/
inductive Becomes (library : ClientLibrary) (shared : ServerOptions) (settings : Settings)
    (files : Directory) : Except AssemblyError Assembly → Prop
  | invalid {problems : List Settings.Problem} (invalid : settings.validate = .error problems) :
      Becomes library shared settings files (.error (.settings problems))
  | names {error : NameError} (valid : settings.validate = .ok settings)
      (adds : Adds settings.nameMappings files (.error error)) :
      Becomes library shared settings files (.error (.names error))
  | transport {added : List Mapping} {error : TransportError}
      (valid : settings.validate = .ok settings)
      (adds : Adds settings.nameMappings files (.ok added))
      (fails : Transport.Fails library settings.transport files false error) :
      Becomes library shared settings files (.error (.transport error))
  | made {added : List Mapping} {identity : Option CredentialPair} {assembly : Assembly}
      (valid : settings.validate = .ok settings)
      (adds : Adds settings.nameMappings files (.ok added))
      (identifies : Transport.Identifies library settings.transport files identity)
      (builds : library.builds settings.transport identity false = true)
      (made : Made shared settings added identity assembly) :
      Becomes library shared settings files (.ok assembly)

/-- **The names are those of the settings and their file, or the file is the reason.** -/
theorem loadNames_cases (names : Settings.NameMappings) (files : Directory) :
    (∃ added, loadNames names files = .ok (.ofMappings (names.mappings ++ added)) ∧
      Adds names files (.ok added)) ∨
    ∃ error, loadNames names files = .error error ∧ Adds names files (.error error) := by
  unfold loadNames
  cases named : names.path with
  | none => exact .inl ⟨[], by rw [List.append_nil], .nothing named⟩
  | some path =>
    have yields := NameTable.yields_loadMappings (files.file path)
    cases loaded : NameTable.loadMappings (files.file path) with
    | error error =>
      rw [loaded] at yields
      exact .inr ⟨error, by simp [NameTable.reload, loaded], .file named yields⟩
    | ok added =>
      rw [loaded] at yields
      exact .inl ⟨added, by simp [NameTable.reload, loaded], .file named yields⟩

theorem made_assembled (shared : ServerOptions) (settings : Settings) (added : List Mapping)
    (identity : Option CredentialPair) :
    Made shared settings added identity
      (assembled shared settings (.ofMappings (settings.nameMappings.mappings ++ added))
        ⟨settings.transport.skipHostnameVerification, identity.isSome, false⟩) where
  unchanged := rfl
  listener := rfl
  hooks := rfl
  disabled := rfl
  storage := rfl
  installed := rfl
  names := NameTable.tabulates_ofMappings _
  overridden := (NameTable.tabulates_ofMappings _).overridden
  transport := rfl

theorem becomes_makeWith (library : ClientLibrary) (shared : ServerOptions) (settings : Settings)
    (files : Directory) :
    Becomes library shared settings files (makeWith library shared settings files) := by
  cases validated : settings.validate with
  | error problems =>
    unfold makeWith
    rw [validated]
    exact .invalid validated
  | ok valid =>
    obtain ⟨-, rfl⟩ := Settings.validate_eq_ok_iff.mp validated
    rw [makeWith_of_valid library shared files validated]
    obtain ⟨added, loaded, adds⟩ | ⟨error, loaded, adds⟩ :=
      loadNames_cases settings.nameMappings files
    · rw [loaded]
      have becomes := Transport.becomes_buildWith library settings.transport files false
      cases built : Transport.buildWith library settings.transport files false with
      | error error =>
        rw [built] at becomes
        cases becomes with
        | failed fails => exact .transport validated adds fails
      | ok transport =>
        rw [built] at becomes
        cases becomes with
        | built identifies builds =>
          exact .made validated adds identifies builds (made_assembled shared settings added _)
    · rw [loaded]
      exact .names validated adds

/--
**Assembling fails only for the reasons there are.** For all settings, whatever the embedder shares
and the files hold, the result is what is wrong with invalid settings, or else the reason why the
file of names does not yield its mappings, or else the reason why the transport fails, or else an
assembly as the settings, the embedder and the files have it. The storage options are never the
reason.
-/
theorem assembled_or_refused (library : ClientLibrary) (shared : ServerOptions)
    (settings : Settings) (files : Directory) :
    Becomes library shared settings files (makeWith library shared settings files) ∧
      ∀ error, makeWith library shared settings files ≠ .error (.storage error) := by
  have becomes := becomes_makeWith library shared settings files
  refine ⟨becomes, fun error storage => ?_⟩
  rw [storage] at becomes
  cases becomes

end Assembly

end Aggregation
