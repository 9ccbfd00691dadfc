/-
**Assembling the aggregation layer.**

Whoever embeds the aggregation layer shares its own `ServerOptions` with it. The layer works on a
copy without the embedder's hooks and storage, in which the disabled names stay disabled. An
`Assembly` is made in a fixed order: the settings have to be valid, the storage options are
installed, the file of names is read if there is one, and the transport is set up. The first of
these that fails is the reason of the whole.
-/

import Aggregation.Names
import Aggregation.Running
import Aggregation.Settings.Validation
import Aggregation.Transport

namespace Aggregation

/-- What a server is set up with. -/
structure ServerOptions where
  listener : Settings.Listener
  hooks : PostStartHooks StartHook
  storage : Option StorageOptions

namespace ServerOptions

/-- Options with nothing but a listener. -/
def new (listener : Settings.Listener) : ServerOptions := ⟨listener, PostStartHooks.empty, none⟩

/-- A copy without hooks and storage; disabled names stay disabled. -/
def workingCopy (options : ServerOptions) : ServerOptions :=
  { new options.listener with hooks := ⟨Table.empty, options.hooks.disabled⟩ }

/-- Installs storage options, if they can be installed. -/
def install (options : ServerOptions) (storage : StorageOptions) :
    Except StorageError ServerOptions :=
  match storage.check with
  | .error error => .error error
  | .ok () => .ok { options with storage := some storage }

end ServerOptions

/-- Why the aggregation layer cannot be assembled. -/
inductive AssemblyError where
  | settings (problems : List Settings.Problem)
  | storage (error : StorageError)
  | names (error : NameError)
  | transport (error : TransportError)

namespace AssemblyError

/-- The error in words. -/
def message : AssemblyError → String
  | settings problems => Settings.problemsText problems
  | storage error => error.message
  | names error => "failed to load name mappings: " ++ error.message
  | transport error => error.message

end AssemblyError

/-- The aggregation layer, ready to be made a server of. -/
structure Assembly where
  options : ServerOptions
  settings : Settings
  storage : StorageOptions
  names : NameTable
  transport : Transport

namespace Assembly

/-- The table of the configured names, extended by the file that the settings name, if any. -/
def loadNames (settings : Settings.NameMappings) (files : Directory) :
    Except NameError NameTable :=
  let configured := NameTable.ofMappings settings.mappings
  match settings.path with
  | none => .ok configured
  | some path =>
    match configured.reload settings.mappings (files.file path) with
    | (table, .ok _) => .ok table
    | (_, .error error) => .error error

/-- The storage options for the registrations of some settings. -/
def storageOf (settings : Settings) : StorageOptions :=
  StorageOptions.forAggregator settings.registry.storagePrefix settings.registry.codec

/-- Assembles the aggregation layer with the clients of a library. -/
def makeWith (library : ClientLibrary) (shared : ServerOptions) (settings : Settings)
    (files : Directory) : Except AssemblyError Assembly := do
  let settings ← settings.validate.mapError .settings
  let storage := storageOf settings
  let options ← (shared.workingCopy.install storage).mapError .storage
  let names ← (loadNames settings.nameMappings files).mapError .names
  let transport ←
    (Transport.buildWith library settings.transport files false).mapError .transport
  .ok ⟨options, settings, storage, names, transport⟩

/-- Assembles the aggregation layer; its identity only has to be of the right shape. -/
def make (shared : ServerOptions) (settings : Settings) (files : Directory) :
    Except AssemblyError Assembly :=
  makeWith .byShape shared settings files

/-- Adds a hook to an assembly, if its name is not taken. -/
def addHook (assembly : Assembly) (name : String) (hook : StartHook) :
    Except HookError Assembly :=
  match assembly.options.hooks.add name hook with
  | .error error => .error error
  | .ok hooks => .ok { assembly with options := { assembly.options with hooks := hooks } }

end Assembly

end Aggregation
