/-
**No convergence is lost.**

An available backend is not forgotten: as long as its identity is pending, the news that it is
available is on its way to the gate (`Covered`). It is ahead of the listener, listed or received, or
the listener is about to list, because it has just started or because it has lost events. Every move
keeps this so: a write that makes an identity available sends an event, an event that is pushed out
leaves a loss to report, and a listing shows every available identity.

So a listener that waits with nothing to receive has brought every available identity to the gate
(`not_pending_of_quiet`).
-/

import Aggregation.Proofs.Listener.Interleaving

namespace Aggregation

namespace Watching

open Listener (replayed)

/-- An available identity that is pending is on its way to the gate. -/
def Covered (watching : Watching) : Prop :=
  ∀ identity, watching.store.IsAvailable identity → identity ∈ watching.gate.pending →
    watching.ListsAhead ∨ ⟨identity, true⟩ ∈ watching.ahead

theorem covered_write {capacity : Nat} {watching : Watching} (regular : watching.Regular capacity)
    (covered : watching.Covered) (write : Store.Write) :
    (watching.step (.write write)).Covered := by
  intro identity available pending
  rw [store_write regular] at available
  rcases ahead_write regular write with later | ahead
  · exact Or.inl later
  rw [ahead]
  rcases Store.isAvailable_apply available with before | sent
  · rcases covered identity before pending with later | known
    · exact Or.inl (listsAhead_write regular write later)
    · exact Or.inr (List.mem_append_left _ known)
  · rcases regular.connected with starting | ⟨receiver, inbox, own, held⟩
    · exact Or.inl (Or.inl starting)
    · have told : watching.told? write = some ⟨identity, true⟩ := by
        rw [told?, own, Option.bind_some, sent]
      rw [told]
      exact Or.inr (List.mem_append_right _ (List.mem_singleton.mpr rfl))

theorem covered_listen {capacity : Nat} {watching : Watching} (regular : watching.Regular capacity)
    (covered : watching.Covered) : (watching.step .listen).Covered := by
  intro identity available pending
  obtain ⟨events, -, -, store, -⟩ := store_listen regular
  have before : watching.store.IsAvailable identity := by
    rw [store] at available
    exact available
  cases (listened regular).handed with
  | turned ahead gate later =>
    rw [gate] at pending
    rw [ahead]
    rcases covered identity before pending with listing | known
    · rcases later listing with listing | lists
      · exact Or.inl listing
      · obtain ⟨registration, listed, same⟩ :=
          (Store.isAvailable_iff_list regular.sound identity).mp before
        rw [lists]
        exact Or.inr (List.mem_append_left _ (List.mem_map.mpr ⟨registration, listed, same⟩))
    · exact Or.inr (List.mem_append_right _ known)
  | handed event nothing ahead gate later =>
    rw [gate, Gate.mem_onEvent regular.ascending] at pending
    rcases covered identity before pending.1 with listing | known
    · exact Or.inl (later listing)
    · rw [ahead] at known
      rcases List.mem_cons.mp known with same | known
      · exact absurd same.symm pending.2
      · exact Or.inr known

theorem covered_step {capacity : Nat} {watching : Watching} (regular : watching.Regular capacity)
    (covered : watching.Covered) (move : Move) : (watching.step move).Covered := by
  cases move with
  | write write => exact covered_write regular covered write
  | listen => exact covered_listen regular covered
  | seed identities =>
    rw [step_seed regular]
    exact covered

theorem covered_run {capacity : Nat} {watching : Watching} (regular : watching.Regular capacity)
    (covered : watching.Covered) (moves : List Move) : (watching.run moves).Covered := by
  induction moves generalizing watching with
  | nil => exact covered
  | cons move rest ih => exact ih (regular_step regular move) (covered_step regular covered move)

theorem covered_reached (options : StorageOptions) (name : String) (seeds : List (List Identity))
    (moves : List Move) : (reached options name seeds moves).Covered :=
  covered_run (regular_started options name seeds) (fun _ _ _ => Or.inl (Or.inl rfl)) moves

/-- **No convergence is lost.** In every run of a listener that starts on a store beside a gate that
was seeded and closed, whenever the listener waits with nothing to receive, no identity that is
registered as available is pending. -/
theorem not_pending_of_quiet (options : StorageOptions) (name : String)
    (seeds : List (List Identity)) (moves : List Move)
    (quiet : (reached options name seeds moves).isQuiet = true) (identity : Identity)
    (available : (reached options name seeds moves).store.IsAvailable identity) :
    identity ∉ (reached options name seeds moves).gate.pending := by
  intro pending
  obtain ⟨none, empty⟩ := (regular_reached options name seeds moves).quiet quiet
  rcases covered_reached options name seeds moves identity available pending with later | known
  · exact none later
  · rw [empty] at known
    cases known

/-- A run in which a backend turns available once the listener waits, and is then written to more
often than the feed keeps. -/
def flooded : List Move :=
  .write (.upsert ⟨⟨"batch", "v1"⟩, ⟨100, 9⟩, none⟩) :: List.replicate 4 .listen ++
    List.replicate 300 (.write (.setAvailable ⟨"batch", "v1"⟩ true none)) ++
    List.replicate 270 .listen

theorem not_pending_of_quiet_flooded :
    (reached (.forAggregator "/registry" .json) "gate" [[⟨"batch", "v1"⟩]] flooded).isQuiet = true ∧
      (reached (.forAggregator "/registry" .json) "gate" [[⟨"batch", "v1"⟩]]
        flooded).store.IsAvailable ⟨"batch", "v1"⟩ ∧
      ⟨"batch", "v1"⟩ ∉ (reached (.forAggregator "/registry" .json) "gate" [[⟨"batch", "v1"⟩]]
        flooded).gate.pending := by
  have quiet : (reached (.forAggregator "/registry" .json) "gate" [[⟨"batch", "v1"⟩]]
      flooded).isQuiet = true := by decide +kernel
  have available : (reached (.forAggregator "/registry" .json) "gate" [[⟨"batch", "v1"⟩]]
      flooded).store.IsAvailable ⟨"batch", "v1"⟩ :=
    ⟨⟨⟨⟨"batch", "v1"⟩, ⟨100, 9⟩, none⟩, true, none⟩, by decide +kernel, rfl⟩
  exact ⟨quiet, available, not_pending_of_quiet _ _ _ _ quiet _ available⟩

end Watching

end Aggregation
