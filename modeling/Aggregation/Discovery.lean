/-
**Deriving backends from listed paths.**

Each listed path that names an identity either has a priority, and then yields a local backend, or
is reported as unknown. Both lists keep the order of the paths and name an identity once. Every
descriptor is also handed to a sink at the moment it is found.

An identity without a priority is also logged, each time that a path names it. How loudly is up to
the policy for such identities.
-/

import Aggregation.Backend
import Aggregation.Logging
import Aggregation.Settings.Basic

namespace Aggregation

/-- The level at which a policy has identities without a priority logged. -/
def Settings.UnknownPolicy.level : Settings.UnknownPolicy → LogLevel
  | .silent => .debug
  | .log | .remind => .info

/-- A line in the log: a path names an identity that has no priority. -/
structure PassedOver where
  level : LogLevel
  identity : Identity
deriving DecidableEq

/-- What a list of paths yields: local backends, and identities without a priority. -/
structure Derivation where
  descriptors : List Descriptor
  unknown : List Identity

namespace Derivation

variable {σ : Type}

/-- Takes one identity into account, handing a new descriptor to the sink. -/
def take (priorities : PriorityTable) (push : σ → Descriptor → σ)
    (state : Derivation × σ) (identity : Identity) : Derivation × σ :=
  let (derived, sink) := state
  match priorities.get? identity with
  | none =>
    if identity ∈ derived.unknown then state
    else (⟨derived.descriptors, derived.unknown ++ [identity]⟩, sink)
  | some priority =>
    if derived.descriptors.any fun descriptor => descriptor.identity == identity then state
    else
      let descriptor : Descriptor := ⟨identity, priority, none⟩
      (⟨derived.descriptors ++ [descriptor], derived.unknown⟩, push sink descriptor)

/-- The derivation of a list of paths, with the sink left behind. -/
def ofPaths (priorities : PriorityTable) (push : σ → Descriptor → σ) (sink : σ)
    (paths : List String) : Derivation × σ :=
  (paths.filterMap Identity.ofPath?).foldl (take priorities push) (⟨[], []⟩, sink)

/-- A derivation under way: what was found, the sink, and what was logged. -/
structure Progress (σ : Type) where
  derived : Derivation
  sink : σ
  logged : List PassedOver

/-- Takes one path into account; one that names no identity is skipped. -/
def takePath (policy : Settings.UnknownPolicy) (priorities : PriorityTable)
    (push : σ → Descriptor → σ) (progress : Progress σ) (path : String) : Progress σ :=
  match Identity.ofPath? path with
  | none => progress
  | some identity =>
    let (derived, sink) := take priorities push (progress.derived, progress.sink) identity
    let logged :=
      if (priorities.get? identity).isNone then progress.logged ++ [⟨policy.level, identity⟩]
      else progress.logged
    ⟨derived, sink, logged⟩

/-- The derivation of the paths that a delegate lists, under a policy. -/
def ofListed (policy : Settings.UnknownPolicy) (priorities : PriorityTable)
    (push : σ → Descriptor → σ) (sink : σ) (paths : List String) : Progress σ :=
  paths.foldl (takePath policy priorities push) ⟨⟨[], []⟩, sink, []⟩

/-- The names under which the derived backends register. -/
def names (derived : Derivation) : List String :=
  derived.descriptors.map fun descriptor => descriptor.identity.backendName

/-- Whether every derived backend is served locally. -/
def allLocal (derived : Derivation) : Bool := derived.descriptors.all Descriptor.isLocal

end Derivation

end Aggregation
