/-
**No gate turns healthy too early.**

An identity leaves a closed gate only with an event that reports it available, and such an event has
a history: it was sent by a write, or made from a listed registration. `Traced` says that this
history leads to a store that showed the identity as available: for what is ahead of the listener
and for what the gate no longer waits for. Every move keeps this so, since an event is sent or
listed in a store that shows what it says.

So the probe of a gate that was seeded and closed lists its identities in order, never lists one
again, and leaves one out only after it was recorded available (`missing_reached`).
-/

import Aggregation.Proofs.Listener.Interleaving

namespace Aggregation

namespace Watching

open Identity (Ascending)
open Listener (replayed)

/-! ### The pending identities only shrink -/

theorem pending_step {capacity : Nat} {watching : Watching} (regular : watching.Regular capacity)
    (move : Move) : (watching.step move).gate.pending ⊆ watching.gate.pending := by
  intro identity pending
  cases move with
  | write write => exact pending
  | listen =>
    cases (listened regular).handed with
    | turned ahead gate later =>
      rw [gate] at pending
      exact pending
    | handed event nothing ahead gate later =>
      rw [gate, Gate.mem_onEvent regular.ascending] at pending
      exact pending.1
  | seed identities =>
    rw [step_seed regular] at pending
    exact pending

theorem pending_run {capacity : Nat} {watching : Watching} (regular : watching.Regular capacity)
    (moves : List Move) : (watching.run moves).gate.pending ⊆ watching.gate.pending := by
  induction moves generalizing watching with
  | nil => exact List.Subset.refl _
  | cons move rest ih =>
    exact List.Subset.trans (ih (regular_step regular move)) (pending_step regular move)

/-! ### Where a convergence comes from -/

/-- What the listener holds about available identities, and what the gate has let go of them, is
vouched for. -/
structure Traced (seeded : List Identity) (vouched : Identity → Prop) (watching : Watching) :
    Prop where
  ahead : ∀ identity, ⟨identity, true⟩ ∈ watching.ahead → vouched identity
  converged : ∀ identity ∈ seeded, identity ∉ watching.gate.pending → vouched identity

section Traced

variable {capacity : Nat} {seeded : List Identity} {vouched : Identity → Prop} {watching : Watching}

theorem traced_write (regular : watching.Regular capacity)
    (traced : watching.Traced seeded vouched) {write : Store.Write}
    (shown : ∀ identity, (watching.step (.write write)).store.IsAvailable identity →
      vouched identity) : (watching.step (.write write)).Traced seeded vouched where
  ahead identity member := by
    rcases mem_ahead_write regular member with known | told
    · exact traced.ahead identity known
    · refine shown identity ?_
      obtain ⟨receiver, own, sent⟩ := Option.bind_eq_some_iff.mp told
      rw [store_write regular]
      exact Store.isAvailable_of_event sent
  converged identity known gone := traced.converged identity known gone

theorem traced_listen (regular : watching.Regular capacity)
    (traced : watching.Traced seeded vouched)
    (shown : ∀ identity, watching.store.IsAvailable identity → vouched identity) :
    (watching.step .listen).Traced seeded vouched := by
  cases (listened regular).handed with
  | turned ahead gate later =>
    refine ⟨fun identity member => ?_, fun identity known gone => ?_⟩
    · rw [ahead] at member
      rcases List.mem_append.mp member with listed | held
      · obtain ⟨registration, listed, same⟩ := List.mem_map.mp listed
        refine shown identity ((Store.isAvailable_iff_list regular.sound identity).mpr
          ⟨registration, ?_, same⟩)
        exact mem_list_of_lists listed
      · exact traced.ahead identity held
    · rw [gate] at gone
      exact traced.converged identity known gone
  | handed event nothing ahead gate later =>
    refine ⟨fun identity member => ?_, fun identity known gone => ?_⟩
    · refine traced.ahead identity ?_
      rw [ahead]
      exact List.mem_cons_of_mem _ member
    · rw [gate, Gate.mem_onEvent regular.ascending] at gone
      by_cases pending : identity ∈ watching.gate.pending
      · have same : event = ⟨identity, true⟩ :=
          Classical.byContradiction fun other => gone ⟨pending, other⟩
        refine traced.ahead identity ?_
        rw [ahead, same]
        exact List.mem_cons_self
      · exact traced.converged identity known pending

theorem traced_run (regular : watching.Regular capacity)
    (traced : watching.Traced seeded vouched) (moves : List Move)
    (shown : ∀ earlier, earlier <+: moves →
      ∀ identity, (watching.run earlier).store.IsAvailable identity → vouched identity) :
    (watching.run moves).Traced seeded vouched := by
  induction moves generalizing watching with
  | nil => exact traced
  | cons move rest ih =>
    refine ih (regular_step regular move) ?_ fun earlier before =>
      shown (move :: earlier) (List.cons_prefix_cons.mpr ⟨rfl, before⟩)
    have now := shown [] List.nil_prefix
    have next := shown [move] (List.cons_prefix_cons.mpr ⟨rfl, List.nil_prefix⟩)
    cases move with
    | write write => exact traced_write regular traced next
    | listen => exact traced_listen regular traced now
    | seed identities =>
      rw [step_seed regular]
      exact traced

end Traced

/-- **No false health.** In every run of a listener that starts on a store beside a gate that was
seeded and closed, a probe lists seeded identities in ascending order, and none that an earlier
probe left out; it succeeds when it lists none; and a seeded identity that it leaves out was
registered as available in some state of the run up to then. -/
theorem missing_reached (options : StorageOptions) (name : String) (seeds : List (List Identity))
    (moves : List Move) :
    Ascending (reached options name seeds moves).gate.missing ∧
      (reached options name seeds moves).gate.missing ⊆ seeds.flatten ∧
      (∀ earlier, earlier <+: moves → (reached options name seeds moves).gate.missing ⊆
        (reached options name seeds earlier).gate.missing) ∧
      ((reached options name seeds moves).gate.probe = .ok () ↔
        (reached options name seeds moves).gate.missing = []) ∧
      ∀ identity ∈ seeds.flatten, identity ∉ (reached options name seeds moves).gate.missing →
        ∃ earlier, earlier <+: moves ∧
          (reached options name seeds earlier).store.IsAvailable identity := by
  have regular := regular_started options name seeds
  rw [Gate.missing_eq]
  refine ⟨(regular_reached options name seeds moves).ascending, fun identity pending => ?_,
    fun earlier before => ?_, ?_, fun identity known gone => ?_⟩
  · exact (Gate.mem_seeded name seeds identity).mp (pending_run regular moves pending)
  · obtain ⟨rest, rfl⟩ := before
    rw [Gate.missing_eq, reached, run_append]
    exact pending_run (regular_reached options name seeds earlier) rest
  · rw [Gate.probe_eq_ok_iff, Gate.missing_eq]
  · have traced : (Watching.started options name seeds).Traced seeds.flatten fun identity =>
        ∃ earlier, earlier <+: moves ∧
          (reached options name seeds earlier).store.IsAvailable identity := by
      refine ⟨fun identity member => ?_, fun identity known gone => ?_⟩
      · cases member
      · exact absurd ((Gate.mem_seeded name seeds identity).mpr known) gone
    exact (traced_run regular traced moves fun earlier before identity available =>
      ⟨earlier, before, available⟩).converged identity known gone

end Watching

end Aggregation
