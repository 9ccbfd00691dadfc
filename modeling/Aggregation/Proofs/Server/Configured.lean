/-
**What becomes of the configured backends.**

Settings name external backends, each with a service and a priority of its own. In the sync list
they come after the backends that are derived from the delegate's paths, and an identity that is
listed already is not listed again. So on a new store

* a configured backend whose identity is not derived is registered as configured, and the gate does
  not wait for it (`registered_of_configured`);
* one whose identity is derived is dropped without a word: the derived backend is registered in its
  place, and the gate waits for it (`registered_of_derived`).

`honours_iff_not_derived` puts the two together for every valid settings and every list of paths.
-/

import Aggregation.Proofs.Server
import Aggregation.Proofs.Settings.Validation

namespace Aggregation

namespace Server

/-- A path that the delegate lists names the identity, which has a priority. -/
def IsDerived (settings : Settings) (paths : List String) (identity : Identity) : Prop :=
  (∃ path ∈ paths, Identity.ofPath? path = some identity) ∧ (priorityOf settings identity).isSome

/-- The backend of an entry is registered as it is configured, and the gate does not wait for it. -/
structure Honours (aggregator : Aggregator) (entry : Settings.BackendEntry) : Prop where
  registered : ∃ registration, aggregator.store.get? entry.identity = some registration ∧
    registration.descriptor = external entry
  ungated : entry.identity ∉ aggregator.gate.pending

theorem isDerived_iff {settings : Settings} {paths : List String} {identity : Identity} :
    IsDerived settings paths identity ↔
      identity ∈ (derived settings paths).map Descriptor.identity := by
  rw [List.mem_map]
  constructor
  · rintro ⟨⟨path, listed, names⟩, ranked⟩
    obtain ⟨priority, ranked⟩ := Option.isSome_iff_exists.mp ranked
    exact ⟨_, mem_derived.mpr ⟨path, listed, identity, priority, names, ranked, rfl⟩, rfl⟩
  · rintro ⟨descriptor, member, rfl⟩
    obtain ⟨path, listed, identity, priority, names, ranked, rfl⟩ := mem_derived.mp member
    exact ⟨⟨path, listed, names⟩, Option.isSome_iff_exists.mpr ⟨priority, ranked⟩⟩

/-- The identities listed before the configured backends are the derived ones. -/
theorem identities_derivedList (settings : Settings) (paths : List String) :
    (derivedList settings paths).identities = (derived settings paths).map Descriptor.identity := by
  rw [SyncList.identities, entries_derivedList, List.map_map]
  rfl

/-- A configured backend whose identity is not derived is in the sync list. -/
theorem mem_syncList_of_configured {settings : Settings} (valid : settings.problems = [])
    {paths : List String} {entry : Settings.BackendEntry} (configured : entry ∈ settings.backends)
    (foreign : ¬IsDerived settings paths entry.identity) :
    ⟨external entry, false⟩ ∈ (syncList settings paths).entries := by
  have distinct : ((settings.backends.map external).map Descriptor.identity).Nodup := by
    rw [List.map_map]
    exact Settings.nodup_backends_of_valid valid
  -- The derived backends are listed first, so nothing else can be in the way.
  have new : (external entry).identity ∉ (derivedList settings paths).identities := by
    rw [identities_derivedList, ← isDerived_iff]
    exact foreign
  rw [syncList_eq]
  exact SyncList.mem_foldl_addExternal distinct (List.mem_map_of_mem configured) new

section FirstPass

variable {settings : Settings} {paths : List String} {options : StorageOptions}
  (encodes : options.registrationVersion?.isSome)

include encodes

/-- On a new store every listed backend is registered. -/
theorem get?_firstPass_new {entry : SyncEntry}
    (listed : entry ∈ (syncList settings paths).entries) :
    (firstPass settings paths (.new options)).store.get? entry.identity =
      some (Store.fresh entry.descriptor) :=
  Submission.get?_startEach_of_missing encodes (nodup_syncList settings paths) listed rfl

/-- On a new store the gate waits for the derived backends. -/
theorem mem_pending_firstPass_new (identity : Identity) :
    identity ∈ (firstPass settings paths (.new options)).gate.pending ↔
      IsDerived settings paths identity := by
  rw [@mem_pending_firstPass settings paths (.new options) encodes, IsDerived,
    Option.isSome_iff_exists]
  refine and_congr_right fun _ => exists_congr fun priority => and_iff_left ?_
  intro registration known
  cases known

/-- A configured backend whose identity is not derived is registered as it is configured. -/
theorem registered_of_configured (valid : settings.problems = []) {entry : Settings.BackendEntry}
    (configured : entry ∈ settings.backends)
    (foreign : ¬IsDerived settings paths entry.identity) :
    (firstPass settings paths (.new options)).store.get? entry.identity =
      some ⟨external entry, false, none⟩ :=
  get?_firstPass_new encodes (mem_syncList_of_configured valid configured foreign)

/-- The backend that a listed path names is registered as a local one. -/
theorem registered_of_derived {path : String} (listed : path ∈ paths) {identity : Identity}
    (names : Identity.ofPath? path = some identity) {priority : Priority}
    (ranked : priorityOf settings identity = some priority) :
    (firstPass settings paths (.new options)).store.get? identity =
      some ⟨⟨identity, priority, none⟩, false, none⟩ := by
  have member : (⟨identity, priority, none⟩ : Descriptor) ∈ derived settings paths :=
    mem_derived.mpr ⟨path, listed, identity, priority, names, ranked, rfl⟩
  have entry := gated_syncList.mpr
    (show (⟨⟨identity, priority, none⟩, true⟩ : SyncEntry).descriptor ∈ _ ∧ _ from ⟨member, rfl⟩)
  exact get?_firstPass_new encodes entry.1

end FirstPass

/-- **When configured backends are honoured.** On a new store, whatever is shared, configured and
listed, and whatever library the clients are of, a server is built, and each configured backend is
registered as it is configured and not waited for, exactly if its identity is not derived: no listed
path names it, or it has no priority. Where one does, the derived backend is registered in its
place, without a service and with the priority of the table, and the gate waits for it. -/
theorem honours_iff_not_derived {library : ClientLibrary} {shared : ServerOptions}
    {settings : Settings} {files : Directory} {assembly : Assembly}
    (made : Assembly.makeWith library shared settings files = .ok assembly)
    (paths : List String) (shutdown : Shutdown) (network : Http.Network) (present : Directory) :
    ∃ server, build assembly paths (.new assembly.storage) shutdown
        ⟨Store.upsert, network, present⟩ = .ok server ∧
      ∀ entry ∈ settings.backends,
        (Honours server.aggregator entry ↔ ¬IsDerived settings paths entry.identity) ∧
        ∀ path ∈ paths, Identity.ofPath? path = some entry.identity →
          ∀ priority, priorityOf settings entry.identity = some priority →
            server.aggregator.store.get? entry.identity =
                some ⟨⟨entry.identity, priority, none⟩, false, none⟩ ∧
              entry.identity ∈ server.aggregator.gate.pending := by
  obtain ⟨valid, -, -, -, same⟩ := Assembly.makeWith_eq_ok_iff.mp made
  have own : assembly.settings = settings := by rw [same]
  have encodes : assembly.storage.registrationVersion?.isSome := by rw [same]; rfl
  have hookless : assembly.options.hooks.hooks.keys = [] := by rw [same]; rfl
  obtain ⟨checks, hooks, built⟩ :=
    build_eq_ok assembly paths (.new assembly.storage) shutdown network present hookless
  refine ⟨_, built, fun entry configured => ⟨?_, fun path listed names priority ranked => ?_⟩⟩
  · constructor
    -- That the gate does not wait for the identity already rules out that it is derived.
    · rintro ⟨-, ungated⟩ isDerived
      rw [gate_prepare, own] at ungated
      exact ungated ((mem_pending_firstPass_new encodes _).mpr isDerived)
    · intro foreign
      refine ⟨⟨⟨external entry, false, none⟩, ?_, rfl⟩, ?_⟩
      · rw [store_prepare, own]
        exact registered_of_configured encodes valid configured foreign
      · rw [gate_prepare, own]
        exact fun waits => foreign ((mem_pending_firstPass_new encodes _).mp waits)
  · rw [store_prepare, gate_prepare, own]
    have isDerived : IsDerived settings paths entry.identity :=
      ⟨⟨path, listed, names⟩, by rw [ranked]; rfl⟩
    exact ⟨registered_of_derived encodes listed names ranked,
      (mem_pending_firstPass_new encodes _).mpr isDerived⟩

/-- Settings that configure two external backends, and give the identity of one of them a
priority. -/
def rivalled : Settings where
  priorities := [⟨"g1", "v1", 1500, 10⟩]
  backends := [⟨"ext", "v1", "ext", 1000, 9⟩, ⟨"g1", "v1", "ext", 1000, 9⟩]

/-- The assembly of these settings. -/
def rivalledAssembly : Assembly :=
  ⟨{ (ServerOptions.new {}).workingCopy with storage := some (Assembly.storageOf rivalled) },
    rivalled, Assembly.storageOf rivalled, NameTable.ofMappings [], ⟨true, false, false⟩⟩

/-- Where the delegate lists that identity, only the other configured backend is honoured. -/
theorem honours_iff_not_derived_rivalled :
    Assembly.make (.new {}) rivalled Table.empty = .ok rivalledAssembly ∧
      ∃ server, build rivalledAssembly ["/apis/g1/v1"] (.new rivalledAssembly.storage) .new
          ⟨Store.upsert, Http.Network.offline, Table.empty⟩ = .ok server ∧
        Honours server.aggregator ⟨"ext", "v1", "ext", 1000, 9⟩ ∧
        server.aggregator.store.get? ⟨"g1", "v1"⟩ =
          some ⟨⟨⟨"g1", "v1"⟩, ⟨1500, 10⟩, none⟩, false, none⟩ ∧
        ⟨"g1", "v1"⟩ ∈ server.aggregator.gate.pending := by
  have made : Assembly.make (.new {}) rivalled Table.empty = .ok rivalledAssembly :=
    Assembly.makeWith_eq_ok_iff.mpr ⟨by decide +kernel, by decide +kernel, rfl, rfl, rfl⟩
  obtain ⟨server, built, honoured⟩ :=
    honours_iff_not_derived made ["/apis/g1/v1"] .new Http.Network.offline Table.empty
  refine ⟨made, server, built, ?_, ?_⟩
  · refine (honoured ⟨"ext", "v1", "ext", 1000, 9⟩ (by decide)).1.mpr ?_
    rintro ⟨⟨path, listed, names⟩, -⟩
    rw [List.mem_singleton.mp listed] at names
    revert names
    decide +kernel
  · exact (honoured ⟨"g1", "v1", "ext", 1000, 9⟩ (by decide)).2 "/apis/g1/v1"
      (List.mem_singleton_self _) (by decide +kernel) ⟨1500, 10⟩ (by decide +kernel)

/-- The backend configured for that identity is lost, although the settings are valid. -/
theorem not_honours_rivalled :
    Assembly.make (.new {}) rivalled Table.empty = .ok rivalledAssembly ∧
      ∃ server, build rivalledAssembly ["/apis/g1/v1"] (.new rivalledAssembly.storage) .new
          ⟨Store.upsert, Http.Network.offline, Table.empty⟩ = .ok server ∧
        ¬∀ entry ∈ rivalled.backends, Honours server.aggregator entry := by
  obtain ⟨checks, hooks, built⟩ := build_eq_ok rivalledAssembly ["/apis/g1/v1"]
    (.new rivalledAssembly.storage) .new Http.Network.offline Table.empty rfl
  refine ⟨Assembly.makeWith_eq_ok_iff.mpr ⟨by decide +kernel, by decide +kernel, rfl, rfl, rfl⟩,
    _, built, fun honoured => ?_⟩
  have ungated := (honoured ⟨"g1", "v1", "ext", 1000, 9⟩ (by decide)).ungated
  rw [gate_prepare] at ungated
  refine ungated ((mem_pending_firstPass_new rfl _).mpr ⟨⟨"/apis/g1/v1", ?_, ?_⟩, ?_⟩)
  · exact List.mem_singleton_self _
  · decide +kernel
  · decide +kernel

end Server

end Aggregation
