/-
**What the operations of a gate do to the pending identities.**

* `mem_seed`, `seed_closed`: seeding adds the given identities to an open gate and nothing to a
  closed one;
* `mem_onEvent`: an event takes out the identity that it reports available, and no other;
* `Ascending` is kept by all of them, so the probe names each pending identity once and in order;
* `missing_eq`: the probe names exactly what is pending.
-/

import Aggregation.Gate
import Aggregation.Proofs.Identity

namespace Aggregation

namespace Gate

open Identity (Ascending)

/-! ### Seeding -/

theorem mem_insertPending (identity other : Identity) (pending : List Identity) :
    other ∈ insertPending identity pending ↔ other = identity ∨ other ∈ pending := by
  induction pending with
  | nil => rw [insertPending, List.mem_singleton]; simp
  | cons first rest ih =>
    unfold insertPending
    split
    · rw [List.mem_cons]
    · next equal =>
      have same : identity = first := Std.LawfulEqOrd.eq_of_compare equal
      rw [same, List.mem_cons]
      exact ⟨Or.inr, fun either => either.elim Or.inl id⟩
    · rw [List.mem_cons, ih, List.mem_cons]
      exact or_left_comm

theorem ascending_insertPending (identity : Identity) {pending : List Identity}
    (ascending : Ascending pending) : Ascending (insertPending identity pending) := by
  induction pending with
  | nil => exact List.pairwise_singleton _ _
  | cons first rest ih =>
    obtain ⟨below, later⟩ := List.pairwise_cons.mp ascending
    unfold insertPending
    split
    · next before =>
      refine List.pairwise_cons.mpr ⟨fun other member => ?_, ascending⟩
      rcases List.mem_cons.mp member with rfl | member
      · exact before
      · exact Std.TransCmp.lt_trans before (below other member)
    · exact ascending
    · next after =>
      refine List.pairwise_cons.mpr ⟨fun other member => ?_, ih later⟩
      rcases (mem_insertPending identity other rest).mp member with rfl | member
      · exact Std.OrientedCmp.gt_iff_lt.mp after
      · exact below other member

/-- Identities inserted one after the other. -/
theorem mem_foldl_insertPending (identities : List Identity) (other : Identity) :
    ∀ pending : List Identity,
      other ∈ identities.foldl (fun pending identity => insertPending identity pending) pending ↔
        other ∈ identities ∨ other ∈ pending := by
  induction identities with
  | nil => intro pending; simp
  | cons identity rest ih =>
    intro pending
    rw [List.foldl_cons, ih, mem_insertPending, List.mem_cons]
    exact or_left_comm.trans or_assoc.symm

theorem ascending_foldl_insertPending (identities : List Identity) :
    ∀ {pending : List Identity}, Ascending pending → Ascending
      (identities.foldl (fun pending identity => insertPending identity pending) pending) := by
  induction identities with
  | nil => exact fun ascending => ascending
  | cons identity rest ih => exact fun ascending => ih (ascending_insertPending identity ascending)

/-- A closed gate takes no identities. -/
theorem seed_closed {gate : Gate} (closed : gate.isClosed = true) (identities : List Identity) :
    gate.seed identities = (gate, 0, []) := by
  rw [seed, if_pos closed]

theorem isClosed_seed (gate : Gate) (identities : List Identity) :
    (gate.seed identities).1.isClosed = gate.isClosed := by
  unfold seed
  split <;> rfl

/-- Seeding an open gate adds the given identities. -/
theorem mem_seed {gate : Gate} (opened : gate.isClosed = false) (identities : List Identity)
    (other : Identity) :
    other ∈ (gate.seed identities).1.pending ↔ other ∈ identities ∨ other ∈ gate.pending := by
  have open' : ¬gate.isClosed = true := by rw [opened]; exact Bool.false_ne_true
  rw [seed, if_neg open']
  exact mem_foldl_insertPending identities other gate.pending

theorem ascending_seed {gate : Gate} (ascending : Ascending gate.pending)
    (identities : List Identity) : Ascending (gate.seed identities).1.pending := by
  unfold seed
  split
  · exact ascending
  · exact ascending_foldl_insertPending identities ascending

/-! ### Gates that were seeded and closed -/

/-- An open gate after seeding it with several lists. -/
def seedAll (gate : Gate) (seeds : List (List Identity)) : Gate :=
  seeds.foldl (fun gate identities => (gate.seed identities).1) gate

/-- A new gate that was seeded and then closed. -/
def seeded (name : String) (seeds : List (List Identity)) : Gate := ((new name).seedAll seeds).close

theorem mem_seedAll (seeds : List (List Identity)) (other : Identity) :
    ∀ {gate : Gate}, gate.isClosed = false →
      (other ∈ (gate.seedAll seeds).pending ↔ other ∈ seeds.flatten ∨ other ∈ gate.pending) := by
  induction seeds with
  | nil => intro gate _; simp [seedAll]
  | cons identities rest ih =>
    intro gate opened
    have stillOpen : (gate.seed identities).1.isClosed = false := by rw [isClosed_seed, opened]
    show other ∈ ((gate.seed identities).1.seedAll rest).pending ↔ _
    rw [ih stillOpen, mem_seed opened, List.flatten_cons, List.mem_append]
    exact or_left_comm.trans or_assoc.symm

theorem ascending_seedAll (seeds : List (List Identity)) :
    ∀ {gate : Gate}, Ascending gate.pending → Ascending (gate.seedAll seeds).pending := by
  induction seeds with
  | nil => exact fun ascending => ascending
  | cons identities rest ih => exact fun ascending => ih (ascending_seed ascending identities)

/-- A seeded gate waits for the identities it was seeded with. -/
theorem mem_seeded (name : String) (seeds : List (List Identity)) (identity : Identity) :
    identity ∈ (seeded name seeds).pending ↔ identity ∈ seeds.flatten := by
  show identity ∈ ((new name).seedAll seeds).pending ↔ _
  rw [mem_seedAll seeds identity rfl]
  simp [new]

theorem ascending_seeded (name : String) (seeds : List (List Identity)) :
    Ascending (seeded name seeds).pending :=
  ascending_seedAll seeds List.Pairwise.nil

@[simp] theorem isClosed_seeded (name : String) (seeds : List (List Identity)) :
    (seeded name seeds).isClosed = true := rfl

/-! ### Events -/

/-- An event takes out the identity that it reports available. -/
theorem mem_onEvent {gate : Gate} (ascending : Ascending gate.pending) (event : StatusEvent)
    (identity : Identity) :
    identity ∈ (gate.onEvent event).1.pending ↔
      identity ∈ gate.pending ∧ event ≠ ⟨identity, true⟩ := by
  rcases event with ⟨reported, available⟩
  have distinct := ascending.nodup
  unfold onEvent
  split
  · next converges =>
    simp only [Bool.and_eq_true] at converges
    obtain ⟨rfl, known⟩ := converges
    simp only [distinct.mem_erase_iff, ne_eq, StatusEvent.mk.injEq, and_true]
    exact ⟨fun ⟨other, member⟩ => ⟨member, fun same => other same.symm⟩,
      fun ⟨member, other⟩ => ⟨fun same => other same.symm, member⟩⟩
  · next kept =>
    refine ⟨fun member => ⟨member, fun same => kept ?_⟩, fun both => both.1⟩
    cases same
    simpa using member

theorem ascending_onEvent {gate : Gate} (ascending : Ascending gate.pending) (event : StatusEvent) :
    Ascending (gate.onEvent event).1.pending := by
  unfold onEvent
  split
  · exact ascending.sublist List.erase_sublist
  · exact ascending

theorem isClosed_onEvent (gate : Gate) (event : StatusEvent) :
    (gate.onEvent event).1.isClosed = gate.isClosed := by
  unfold onEvent
  split <;> rfl

/-! ### The probe -/

/-- The identities that the probe names; none if it succeeds. -/
def missing (gate : Gate) : List Identity :=
  match gate.probe with
  | .ok () => []
  | .error error => error.pending

/-- The probe names what is pending. -/
theorem missing_eq (gate : Gate) : gate.missing = gate.pending := by
  unfold missing probe
  by_cases none : gate.pending = []
  · simp [none]
  · simp [none]

/-- The probe succeeds once it has nothing to name. -/
theorem probe_eq_ok_iff (gate : Gate) : gate.probe = .ok () ↔ gate.missing = [] := by
  rw [missing_eq]
  unfold probe
  by_cases none : gate.pending = []
  · simp [none]
  · simp [none]

/-- The failure of the probe in words. -/
theorem failure?_eq (gate : Gate) :
    gate.failure? =
      if gate.pending = [] then none else some (PendingBackends.message ⟨gate.pending⟩) := by
  unfold failure? probe
  by_cases none : gate.pending = []
  · simp [none]
  · simp [none]

end Gate

end Aggregation
