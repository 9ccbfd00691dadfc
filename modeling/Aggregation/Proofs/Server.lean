/-
**What a server starts with.**

A server is built from an assembly, the paths that the delegate lists, and a store with any
registrations in it. Nothing can abort that: the names of the checks and of the hooks are different
(`makeChecks_eq_ok`, `all_distinct`), and a refused submission is only reported.

The backends derived from the paths come first in the sync list and are all in it, each with a
gate entry of its own; the configured ones that follow do not gate (`entries_syncList`). So the pass
at the start seeds the gate with the derived backends that the store accepts, and
`build_outcome` says which these are, and what became of the store.
-/

import Aggregation.Proofs.Assembly
import Aggregation.Proofs.Discovery
import Aggregation.Proofs.Store.Documents
import Aggregation.Proofs.Sync.Start

namespace Aggregation

namespace Server

/-! ### Priorities -/

/-- The priority of an identity: the one that is configured last, or else the built-in one. -/
def priorityOf (settings : Settings) (identity : Identity) : Option Priority :=
  ((settings.priorities.reverse.find? fun entry =>
      (⟨entry.group, entry.version⟩ : Identity) = identity).map fun entry =>
    ⟨entry.groupPriority, entry.versionPriority⟩).or (PriorityTable.builtin.get? identity)

theorem get?_priorities (settings : Settings) (identity : Identity) :
    (priorities settings).get? identity = priorityOf settings identity := by
  unfold priorities priorityOf
  rw [Table.get?_insertAll, ← List.map_reverse, List.find?_map, Option.map_map]
  rfl

/-! ### The sync list -/

/-- The local backends derived from the paths of a delegate. -/
def derived (settings : Settings) (paths : List String) : List Descriptor :=
  Derivation.backends (priorities settings) (paths.filterMap Identity.ofPath?)

theorem mem_derived {settings : Settings} {paths : List String} {descriptor : Descriptor} :
    descriptor ∈ derived settings paths ↔
      ∃ path ∈ paths, ∃ identity priority, Identity.ofPath? path = some identity ∧
        priorityOf settings identity = some priority ∧
        descriptor = ⟨identity, priority, none⟩ := by
  unfold derived
  rw [Derivation.mem_backends]
  constructor
  · rintro ⟨identity, named, priority, known, same⟩
    obtain ⟨path, listed, names⟩ := List.mem_filterMap.mp named
    exact ⟨path, listed, identity, priority, names, get?_priorities settings identity ▸ known, same⟩
  · rintro ⟨path, listed, identity, priority, names, known, same⟩
    exact ⟨identity, List.mem_filterMap.mpr ⟨path, listed, names⟩, priority,
      (get?_priorities settings identity).trans known, same⟩

/-- The sync list before the configured backends are added. -/
def derivedList (settings : Settings) (paths : List String) : SyncList :=
  { (derived settings paths).foldl SyncList.add SyncList.empty with
    unknown :=
      Derivation.leftOver (priorities settings) (paths.filterMap Identity.ofPath?) }

theorem entries_derivedList (settings : Settings) (paths : List String) :
    (derivedList settings paths).entries =
      (derived settings paths).map fun descriptor => ⟨descriptor, true⟩ :=
  SyncList.foldl_add (Derivation.nodup_backends (priorities settings) _)

theorem syncList_eq (settings : Settings) (paths : List String) :
    syncList settings paths =
      (settings.backends.map external).foldl SyncList.addExternal (derivedList settings paths) := by
  unfold syncList
  rw [Derivation.ofPaths_eq]
  rfl

/-- **The sync list**: the derived backends, which gate, and after them others that do not. -/
theorem entries_syncList (settings : Settings) (paths : List String) :
    ∃ configured, (syncList settings paths).entries =
        (derived settings paths).map (fun descriptor => ⟨descriptor, true⟩) ++ configured ∧
      ∀ entry ∈ configured, entry.gated = false := by
  rw [syncList_eq, ← entries_derivedList]
  exact SyncList.foldl_addExternal _ _

/-- Exactly the derived backends gate. -/
theorem gated_syncList {settings : Settings} {paths : List String} {entry : SyncEntry} :
    entry ∈ (syncList settings paths).entries ∧ entry.gated = true ↔
      entry.descriptor ∈ derived settings paths ∧ entry.gated = true := by
  obtain ⟨configured, entries, ungated⟩ := entries_syncList settings paths
  refine and_congr_left fun gated => ?_
  rw [entries, List.mem_append, List.mem_map]
  constructor
  · rintro (⟨descriptor, member, rfl⟩ | later)
    · exact member
    · rw [ungated entry later] at gated
      cases gated
  · intro member
    refine Or.inl ⟨entry.descriptor, member, ?_⟩
    rw [← gated]

theorem nodup_syncList (settings : Settings) (paths : List String) :
    (syncList settings paths).identities.Nodup := by
  rw [syncList_eq]
  refine SyncList.nodup_foldl_addExternal _ ?_
  rw [SyncList.identities, entries_derivedList, List.map_map]
  exact Derivation.nodup_backends (priorities settings) _

/-! ### Checks and hooks -/

theorem makeChecks_eq_ok : ∃ checks, makeChecks = .ok checks := ⟨_, rfl⟩

/-- The hooks of a server have different names. -/
theorem all_distinct (settings : Settings) :
    ((StartHook.all settings).map Prod.fst).Nodup := by
  have names : (StartHook.all settings).map Prod.fst =
      [StartHook.syncName, StartHook.listenerName, StartHook.availabilityName] ++
        settings.nameMappings.path.toList.map fun _ => StartHook.watchName := by
    unfold StartHook.all
    rw [List.map_append, List.map_map]
    rfl
  rw [names]
  rcases settings.nameMappings.path with _ | path
  · decide
  · show [StartHook.syncName, StartHook.listenerName, StartHook.availabilityName,
      StartHook.watchName].Nodup
    decide

/-! ### The server -/

/-- The pass that submits the listed backends to the store for the first time. -/
def firstPass (settings : Settings) (paths : List String) (store : Store) : Submission.Started :=
  Submission.startEach ⟨store, Gate.new Gate.completion, ⟨[], [], []⟩, []⟩
    (syncList settings paths).entries

section Prepare

variable (assembly : Assembly) (paths : List String) (store : Store) (shutdown : Shutdown)
  (network : Http.Network) (present : Directory)

theorem gate_prepare :
    (prepare assembly paths store shutdown ⟨Store.upsert, network, present⟩).gate =
      (firstPass assembly.settings paths store).gate.close := rfl

theorem store_prepare :
    (prepare assembly paths store shutdown ⟨Store.upsert, network, present⟩).store =
      (firstPass assembly.settings paths store).store := rfl

theorem list_prepare :
    (prepare assembly paths store shutdown ⟨Store.upsert, network, present⟩).list =
      syncList assembly.settings paths := rfl

/-- A server is built if the hooks that it starts from are none. -/
theorem build_eq_ok (hookless : assembly.options.hooks.hooks.keys = []) :
    ∃ checks hooks, build assembly paths store shutdown ⟨Store.upsert, network, present⟩ =
      .ok ⟨assembly.options.listener, assembly.settings,
        prepare assembly paths store shutdown ⟨Store.upsert, network, present⟩, checks, hooks,
        assembly.transport⟩ := by
  obtain ⟨checks, checked⟩ := makeChecks_eq_ok
  have distinct : (assembly.options.hooks.hooks.keys ++
      (StartHook.all assembly.settings).map Prod.fst).Nodup := by
    rw [hookless]
    exact all_distinct assembly.settings
  obtain ⟨hooks, hooked, -⟩ := StartHook.addAll_eq_ok distinct
  refine ⟨checks, hooks, ?_⟩
  unfold build
  rw [checked, hooked]
  rfl

end Prepare

/-- The first pass makes the gate wait for the derived backends that the store accepts. -/
theorem mem_pending_firstPass {settings : Settings} {paths : List String} {store : Store}
    (encodes : store.options.registrationVersion?.isSome) (identity : Identity) :
    identity ∈ (firstPass settings paths store).gate.pending ↔
      (∃ path ∈ paths, Identity.ofPath? path = some identity) ∧
        ∃ priority, priorityOf settings identity = some priority ∧
          ∀ registration, store.get? identity = some registration →
            registration.descriptor.priority = priority ∧
              registration.descriptor.service = none := by
  have listed : identity ∈ (firstPass settings paths store).gate.pending ↔
      ∃ entry ∈ (syncList settings paths).entries, entry.gated = true ∧
        entry.identity = identity ∧ store.Accepts entry.descriptor := by
    have ascending : Identity.Ascending (Gate.new Gate.completion).pending := List.Pairwise.nil
    exact (Submission.mem_pending_startAll store ascending rfl (nodup_syncList settings paths)
      identity).trans (or_iff_right List.not_mem_nil)
  rw [listed]
  constructor
  · rintro ⟨entry, member, gated, rfl, accepted⟩
    obtain ⟨derived, -⟩ := gated_syncList.mp ⟨member, gated⟩
    obtain ⟨path, listed, identity, priority, names, ranked, same⟩ := mem_derived.mp derived
    have own : entry.identity = identity := by rw [SyncEntry.identity, same]
    rw [Store.accepts_iff encodes] at accepted
    refine ⟨⟨path, listed, own ▸ names⟩, priority, own ▸ ranked, fun registration known => ?_⟩
    have kept := accepted registration known
    rw [same] at kept
    exact kept
  · rintro ⟨⟨path, listed, names⟩, priority, ranked, kept⟩
    have derived : (⟨identity, priority, none⟩ : Descriptor) ∈ derived settings paths :=
      mem_derived.mpr ⟨path, listed, identity, priority, names, ranked, rfl⟩
    have entry := gated_syncList.mpr
      (show (⟨⟨identity, priority, none⟩, true⟩ : SyncEntry).descriptor ∈ _ ∧ _ from ⟨derived, rfl⟩)
    exact ⟨_, entry.1, rfl, rfl, (Store.accepts_iff encodes _).mpr kept⟩

/-- **What a server starts with.** Whatever is shared, configured and listed, whatever library the
clients are of, and whatever the store holds, a server is built. Its gate is closed, and waits for
the identities that a path names, that have a priority, and under which no other priority or service
was registered. What was registered before is unchanged; each backend to keep registered that was
not is registered now, unavailable. -/
theorem build_outcome {library : ClientLibrary} {shared : ServerOptions} {settings : Settings}
    {files : Directory} {assembly : Assembly}
    (made : Assembly.makeWith library shared settings files = .ok assembly)
    (paths : List String) (writes : List Store.Write) (shutdown : Shutdown)
    (network : Http.Network) (present : Directory) :
    let store := (Store.new assembly.storage).writeAll writes
    ∃ server, build assembly paths store shutdown ⟨Store.upsert, network, present⟩ = .ok server ∧
      server.aggregator.gate.isClosed = true ∧
      (∀ identity, identity ∈ server.aggregator.gate.pending ↔
        (∃ path ∈ paths, Identity.ofPath? path = some identity) ∧
          ∃ priority, priorityOf settings identity = some priority ∧
            ∀ registration, store.get? identity = some registration →
              registration.descriptor.priority = priority ∧
                registration.descriptor.service = none) ∧
      (∀ identity registration, store.get? identity = some registration →
        server.aggregator.store.get? identity = some registration) ∧
      ∀ entry ∈ server.aggregator.list.entries, store.get? entry.identity = none →
        server.aggregator.store.get? entry.identity =
          some ⟨entry.descriptor, false, none⟩ := by
  intro store
  obtain ⟨-, -, -, -, same⟩ := Assembly.makeWith_eq_ok_iff.mp made
  have own : assembly.settings = settings := by rw [same]
  have hookless : assembly.options.hooks.hooks.keys = [] := by rw [same]; rfl
  have encodes : store.options.registrationVersion?.isSome := by
    rw [Store.options_writeAll (Store.sound_new _) writes]
    show assembly.storage.registrationVersion?.isSome
    rw [same]
    rfl
  obtain ⟨checks, hooks, built⟩ :=
    build_eq_ok assembly paths store shutdown network present hookless
  refine ⟨_, built, rfl, fun identity => ?_, fun identity registration known => ?_,
    fun entry listed missing => ?_⟩
  · rw [gate_prepare, own]
    exact mem_pending_firstPass encodes identity
  · rw [store_prepare, firstPass, Submission.get?_startEach encodes, known]
    rfl
  · rw [list_prepare, own] at listed
    rw [store_prepare, own]
    exact Submission.get?_startEach_of_missing encodes (nodup_syncList settings paths) listed
      missing

/-- Settings that give one more identity a priority, and configure one external backend. -/
def extended : Settings where
  priorities := [⟨"g1", "v1", 1500, 10⟩]
  backends := [⟨"ext", "v1", "ext", 1000, 9⟩]

/-- The assembly of these settings. -/
def extendedAssembly : Assembly :=
  ⟨{ (ServerOptions.new {}).workingCopy with storage := some (Assembly.storageOf extended) },
    extended, Assembly.storageOf extended, NameTable.ofMappings [], ⟨true, false, false⟩⟩

/-- The core API was registered with another priority: it stays as it was, and the gate waits for
the other identity alone. -/
theorem build_outcome_extended :
    Assembly.make (.new {}) extended Table.empty = .ok extendedAssembly ∧
      ∃ server, build extendedAssembly ["/api/v1", "/apis/g1/v1", "/apis/unknown/v9"]
          ((Store.new extendedAssembly.storage).writeAll [.upsert ⟨.core, ⟨1, 1⟩, none⟩]) .new
          ⟨Store.upsert, Http.Network.offline, Table.empty⟩ = .ok server ∧
        server.aggregator.gate.isClosed = true ∧ ⟨"g1", "v1"⟩ ∈ server.aggregator.gate.pending ∧
        Identity.core ∉ server.aggregator.gate.pending ∧
        server.aggregator.store.get? .core = some ⟨⟨.core, ⟨1, 1⟩, none⟩, false, none⟩ := by
  have made : Assembly.make (.new {}) extended Table.empty = .ok extendedAssembly :=
    Assembly.makeWith_eq_ok_iff.mpr ⟨by decide +kernel, by decide +kernel, rfl, rfl, rfl⟩
  have known : ((Store.new extendedAssembly.storage).writeAll
      [.upsert ⟨.core, ⟨1, 1⟩, none⟩]).get? .core =
        some ⟨⟨.core, ⟨1, 1⟩, none⟩, false, none⟩ := by decide +kernel
  have missing : ((Store.new extendedAssembly.storage).writeAll
      [.upsert ⟨.core, ⟨1, 1⟩, none⟩]).get? ⟨"g1", "v1"⟩ = none := by decide +kernel
  obtain ⟨server, built, closed, pending, kept, -⟩ := build_outcome made
    ["/api/v1", "/apis/g1/v1", "/apis/unknown/v9"] [.upsert ⟨.core, ⟨1, 1⟩, none⟩] .new
    Http.Network.offline Table.empty
  refine ⟨made, server, built, closed, (pending _).mpr ⟨⟨"/apis/g1/v1", by simp, ?_⟩, ⟨1500, 10⟩,
    ?_, ?_⟩, fun waits => ?_, kept _ _ known⟩
  · decide +kernel
  · decide +kernel
  · intro registration found
    rw [missing] at found
    cases found
  · obtain ⟨-, priority, ranked, same⟩ := (pending _).mp waits
    have other : priorityOf extended .core = some ⟨18000, 1⟩ := by decide +kernel
    rw [other] at ranked
    cases ranked
    have own := (same _ known).1
    cases own

end Server

end Aggregation
