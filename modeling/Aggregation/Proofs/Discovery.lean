/-
**What a list of paths yields.**

The paths that name an identity count once each, at their first place. Of these identities the ones
with a priority become local backends and the others are left over, both in the order of the paths;
the sink is handed the backends in that order (`ofPaths_eq`). No two of the backends have the same
identity (`nodup_backends`), and none of them is left over.

A policy has no part in that: it decides how loudly the left over identities are logged, each time
that a path names one, and nothing else (`ofListed_eq`).
-/

import Aggregation.Discovery
import Mathlib.Data.List.Induction
import Mathlib.Data.List.Nodup

namespace Aggregation

/-! ### Lists without doubles -/

section Doubles

variable {α : Type} [BEq α] [LawfulBEq α]

theorem eraseDups_concat (items : List α) (last : α) :
    (items ++ [last]).eraseDups =
      items.eraseDups ++ if items.contains last then [] else [last] := by
  rw [List.eraseDups_append]
  by_cases known : last ∈ items <;> simp [List.removeAll, known, List.eraseDups_cons]

theorem nodup_eraseDups (items : List α) : items.eraseDups.Nodup := by
  induction items using List.reverseRecOn with
  | nil => exact List.nodup_nil
  | append_singleton items last ih =>
    rw [eraseDups_concat]
    split
    · rw [List.append_nil]
      exact ih
    · next fresh =>
      rw [← List.concat_eq_append]
      refine ih.concat fun known => ?_
      rw [List.mem_eraseDups] at known
      exact fresh (List.contains_iff_mem.mpr known)

/-- Items that are there already add nothing. -/
theorem eraseDups_append_of_subset {items more : List α} (known : more ⊆ items) :
    (items ++ more).eraseDups = items.eraseDups := by
  have nothing : more.removeAll items = [] := by
    rw [List.removeAll, List.filter_eq_nil_iff]
    intro item member
    simpa using known member
  rw [List.eraseDups_append, nothing, List.eraseDups_nil, List.append_nil]

end Doubles

namespace Derivation

variable {σ : Type} {priorities : PriorityTable}

/-- The local backend of an identity, if it has a priority. -/
def localBackend? (priorities : PriorityTable) (identity : Identity) : Option Descriptor :=
  (priorities.get? identity).map fun priority => ⟨identity, priority, none⟩

theorem localBackend?_eq_some {identity : Identity} {descriptor : Descriptor} :
    localBackend? priorities identity = some descriptor ↔
      ∃ priority, priorities.get? identity = some priority ∧
        descriptor = ⟨identity, priority, none⟩ := by
  unfold localBackend?
  rw [Option.map_eq_some_iff]
  exact exists_congr fun priority => and_congr_right fun _ => eq_comm

/-- The local backends of some identities, each at its first place. -/
def backends (priorities : PriorityTable) (identities : List Identity) : List Descriptor :=
  identities.eraseDups.filterMap (localBackend? priorities)

/-- The identities without a priority, each at its first place. -/
def leftOver (priorities : PriorityTable) (identities : List Identity) : List Identity :=
  identities.eraseDups.filter fun identity => (priorities.get? identity).isNone

theorem mem_backends {identities : List Identity} {descriptor : Descriptor} :
    descriptor ∈ backends priorities identities ↔
      ∃ identity ∈ identities, ∃ priority, priorities.get? identity = some priority ∧
        descriptor = ⟨identity, priority, none⟩ := by
  unfold backends
  simp only [List.mem_filterMap, List.mem_eraseDups, localBackend?_eq_some]

theorem mem_leftOver {identities : List Identity} {identity : Identity} :
    identity ∈ leftOver priorities identities ↔
      identity ∈ identities ∧ priorities.get? identity = none := by
  unfold leftOver
  rw [List.mem_filter, List.mem_eraseDups, Option.isNone_iff_eq_none]

/-- **No identity has two backends.** -/
theorem nodup_backends (priorities : PriorityTable) (identities : List Identity) :
    ((backends priorities identities).map Descriptor.identity).Nodup := by
  have own : ∀ identity, (localBackend? priorities identity).map Descriptor.identity =
      (priorities.get? identity).map fun _ => identity := by
    intro identity
    unfold localBackend?
    rw [Option.map_map]
    rfl
  unfold backends
  rw [List.map_filterMap]
  refine (nodup_eraseDups identities).filterMap fun first second shared left right => ?_
  rw [Option.mem_def, own, Option.map_eq_some_iff] at left right
  obtain ⟨-, -, rfl⟩ := left
  obtain ⟨-, -, rfl⟩ := right
  rfl

theorem backends_concat (identities : List Identity) (last : Identity) :
    backends priorities (identities ++ [last]) = backends priorities identities ++
      if identities.contains last then [] else (localBackend? priorities last).toList := by
  unfold backends
  rw [eraseDups_concat, List.filterMap_append]
  split
  · rfl
  · rcases known : localBackend? priorities last with _ | descriptor <;> simp [known]

theorem leftOver_concat (identities : List Identity) (last : Identity) :
    leftOver priorities (identities ++ [last]) = leftOver priorities identities ++
      if identities.contains last ∨ (priorities.get? last).isSome then [] else [last] := by
  unfold leftOver
  rw [eraseDups_concat, List.filter_append]
  by_cases known : last ∈ identities
  · simp [known]
  · rcases ranked : priorities.get? last with _ | priority <;> simp [known, ranked]

/-- **What identities yield**, one taken after the other. -/
theorem foldl_take (push : σ → Descriptor → σ) (sink : σ) (identities : List Identity) :
    identities.foldl (take priorities push) (⟨[], []⟩, sink) =
      (⟨backends priorities identities, leftOver priorities identities⟩,
        (backends priorities identities).foldl push sink) := by
  induction identities using List.reverseRecOn with
  | nil => rfl
  | append_singleton identities last ih =>
    rw [List.foldl_append, ih, backends_concat, leftOver_concat, List.foldl_append,
      List.foldl_cons, List.foldl_nil, take]
    rcases ranked : priorities.get? last with _ | priority
    · have none' : localBackend? priorities last = none := by rw [localBackend?, ranked]; rfl
      by_cases known : last ∈ identities
      · have listed : last ∈ leftOver priorities identities := mem_leftOver.mpr ⟨known, ranked⟩
        simp [known, listed]
      · have fresh : last ∉ leftOver priorities identities :=
          fun listed => known (mem_leftOver.mp listed).1
        simp [known, none', fresh]
    · have some' : localBackend? priorities last = some ⟨last, priority, none⟩ := by
        rw [localBackend?, ranked]
        rfl
      have listed : ((backends priorities identities).any fun descriptor =>
          descriptor.identity == last) = decide (last ∈ identities) := by
        rw [Bool.eq_iff_iff, List.any_eq_true, decide_eq_true_iff]
        constructor
        · rintro ⟨descriptor, member, same⟩
          obtain ⟨identity, known, _, _, rfl⟩ := mem_backends.mp member
          exact eq_of_beq same ▸ known
        · intro known
          exact ⟨_, mem_backends.mpr ⟨last, known, priority, ranked, rfl⟩, beq_self_eq_true _⟩
      by_cases known : last ∈ identities
      · simp [known, listed]
      · simp [known, listed, some']

/-- **What a list of paths yields.** -/
theorem ofPaths_eq (push : σ → Descriptor → σ) (sink : σ) (paths : List String) :
    ofPaths priorities push sink paths =
      (⟨backends priorities (paths.filterMap Identity.ofPath?),
          leftOver priorities (paths.filterMap Identity.ofPath?)⟩,
        (backends priorities (paths.filterMap Identity.ofPath?)).foldl push sink) :=
  foldl_take push sink _

/-- No identity is named twice by what paths yield, be it as a backend or as left over. -/
theorem nodup_yield (priorities : PriorityTable) (identities : List Identity) :
    ((backends priorities identities).map Descriptor.identity ++
      leftOver priorities identities).Nodup := by
  refine List.nodup_append.mpr ⟨nodup_backends priorities identities,
    (nodup_eraseDups identities).filter _, ?_⟩
  intro identity backed other left same
  obtain ⟨descriptor, member, rfl⟩ := List.mem_map.mp backed
  obtain ⟨identity, -, priority, ranked, rfl⟩ := mem_backends.mp member
  have unranked := (mem_leftOver.mp left).2
  rw [← same, ranked] at unranked
  cases unranked

/-! ### Policies -/

/-- The lines that a policy has written for the identities without a priority. -/
def lines (policy : Settings.UnknownPolicy) (priorities : PriorityTable)
    (identities : List Identity) : List PassedOver :=
  (identities.filter fun identity => (priorities.get? identity).isNone).map fun identity =>
    ⟨policy.level, identity⟩

/-- **What a policy decides.** It has the identities without a priority logged, each time that a
path names one, and the derivation goes on as it does without a policy. -/
theorem ofListed_eq (policy : Settings.UnknownPolicy) (push : σ → Descriptor → σ) (sink : σ)
    (paths : List String) :
    ofListed policy priorities push sink paths =
      ⟨(ofPaths priorities push sink paths).1, (ofPaths priorities push sink paths).2,
        lines policy priorities (paths.filterMap Identity.ofPath?)⟩ := by
  induction paths using List.reverseRecOn with
  | nil => rfl
  | append_singleton paths last ih =>
    have before : ofListed policy priorities push sink (paths ++ [last]) =
        takePath policy priorities push (ofListed policy priorities push sink paths) last :=
      List.foldl_append
    rw [before, ih, takePath]
    rcases names : Identity.ofPath? last with _ | identity
    · have same : (paths ++ [last]).filterMap Identity.ofPath? =
          paths.filterMap Identity.ofPath? := by simp [names]
      simp only [ofPaths, same]
    · have more : (paths ++ [last]).filterMap Identity.ofPath? =
          paths.filterMap Identity.ofPath? ++ [identity] := by simp [names]
      simp only [ofPaths, more, List.foldl_append, List.foldl_cons, List.foldl_nil, lines,
        List.filter_append, List.map_append]
      by_cases ranked : (priorities.get? identity).isNone
      · simp [ranked]
      · simp [ranked]

/-- **What a delegate's paths found.** With the identities that the paths name, in order: the
backends are those of the identities with a priority, left over are those without one, each at its
first place; the sink is handed exactly the backends, each once and in that order; and no identity
is named twice. Another policy, and paths that are listed already, change none of it. -/
theorem ofListed_yield {paths repeated : List String} (known : repeated ⊆ paths)
    (policy other : Settings.UnknownPolicy) (priorities : PriorityTable)
    (push : σ → Descriptor → σ) (sink : σ) :
    let identities := paths.filterMap Identity.ofPath?
    let found := ofListed policy priorities push sink paths
    let again := ofListed other priorities push sink (paths ++ repeated)
    found.derived.descriptors = identities.eraseDups.filterMap (fun identity =>
        (priorities.get? identity).map fun priority => ⟨identity, priority, none⟩) ∧
      found.derived.unknown = identities.eraseDups.filter (fun identity =>
        (priorities.get? identity).isNone) ∧
      found.sink = found.derived.descriptors.foldl push sink ∧
      (found.derived.descriptors.map Descriptor.identity ++ found.derived.unknown).Nodup ∧
      again.derived = found.derived ∧ again.sink = found.sink := by
  intro identities found again
  have named : repeated.filterMap Identity.ofPath? ⊆ identities := by
    intro identity member
    obtain ⟨path, listed, names⟩ := List.mem_filterMap.mp member
    exact List.mem_filterMap.mpr ⟨path, known listed, names⟩
  -- Backends and left over identities are read off the identities without doubles.
  have same : ofPaths priorities push sink (paths ++ repeated) =
      ofPaths priorities push sink paths := by
    rw [ofPaths_eq, ofPaths_eq, List.filterMap_append]
    unfold backends leftOver
    rw [eraseDups_append_of_subset named]
  have finds : found = ⟨⟨backends priorities identities, leftOver priorities identities⟩,
      (backends priorities identities).foldl push sink, lines policy priorities identities⟩ := by
    show ofListed policy priorities push sink paths = _
    rw [ofListed_eq, ofPaths_eq]
  have repeats : again = ⟨found.derived, found.sink,
      lines other priorities ((paths ++ repeated).filterMap Identity.ofPath?)⟩ := by
    show ofListed other priorities push sink (paths ++ repeated) = _
    rw [ofListed_eq, same, ofPaths_eq, finds]
  refine ⟨?_, ?_, ?_, ?_, by rw [repeats], by rw [repeats]⟩
  · rw [finds]
    rfl
  · rw [finds]
    rfl
  · rw [finds]
  · rw [finds]
    exact nodup_yield priorities identities

/-- Known and unknown identities come in turns with a path that names none, and come again. -/
theorem ofListed_yield_interleaved :
    let paths := ["/apis/unknown/v9", "/api/v1", "/healthz", "/apis/unknown/v9", "/api/v1",
      "/apis/apiextensions.k8s.io/v1"]
    let repeated := ["/api/v1", "/apis/unknown/v9", "/healthz"]
    let push := fun sink descriptor => sink ++ [descriptor]
    let found := ofListed .silent .builtin push [] paths
    let again := ofListed .remind .builtin push [] (paths ++ repeated)
    repeated ⊆ paths ∧ found.derived.unknown = [⟨"unknown", "v9"⟩] ∧
      found.sink = [⟨.core, ⟨18000, 1⟩, none⟩,
        ⟨⟨"apiextensions.k8s.io", "v1"⟩, ⟨16700, 15⟩, none⟩] ∧
      again.derived = found.derived ∧ again.sink = found.sink := by
  intro paths repeated push found again
  have known : repeated ⊆ paths := by decide
  obtain ⟨backends, unknown, sink, -, same⟩ :=
    ofListed_yield known .silent .remind .builtin push []
  refine ⟨known, unknown.trans ?_, ?_, same⟩
  · decide +kernel
  · rw [sink, backends]
    decide +kernel

end Derivation

end Aggregation
