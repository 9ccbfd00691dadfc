/-
**What a gate waits for, read off its history.**

A gate is called in any order: it is seeded, closed, and given events. From the calls made so far it
can be said what it waits for, without looking into it. An identity is `Awaited` if it was seeded
before the gate was first closed, and no event has reported it available since the last time that it
was. Which of several seedings one looks at does not matter much: if nothing was reported since an
early one, then nothing was since the last (`awaited_iff`). In that form the last call can be split
off (`awaited_concat`), and the gate after it compared with the gate before.

`missing_exact` says what every answer of a gate is, after any calls.
-/

import Aggregation.Proofs.Gate
import Mathlib.Data.Finset.Card
import Mathlib.Data.Nat.Find

namespace Aggregation

namespace Gate

open Identity (Ascending)

/-- A call on a gate. -/
inductive Call where
  | seed (identities : List Identity)
  | close
  | event (event : StatusEvent)
deriving DecidableEq

/-- The gate after a call. -/
def call (gate : Gate) : Call → Gate
  | .seed identities => (gate.seed identities).1
  | .close => gate.close
  | .event event => (gate.onEvent event).1

/-- The gate after several calls. -/
def callAll (gate : Gate) (calls : List Call) : Gate := calls.foldl call gate

theorem callAll_concat (gate : Gate) (calls : List Call) (last : Call) :
    gate.callAll (calls ++ [last]) = (gate.callAll calls).call last :=
  List.foldl_append

/-! ### Histories -/

/-- Among the calls there is one that seeded the identity before the first closing, and the others
came after it. -/
def SeededBefore (calls : List Call) (identity : Identity) (others : List Call) : Prop :=
  ∃ earlier identities, calls = earlier ++ .seed identities :: others ∧ .close ∉ earlier ∧
    identity ∈ identities

/-- The identity was seeded before the first closing, and no event has reported it available since
the last time that it was. -/
def Awaited (calls : List Call) (identity : Identity) : Prop :=
  ∃ others, SeededBefore calls identity others ∧
    (∀ further, SeededBefore calls identity further → others <:+ further) ∧
    .event ⟨identity, true⟩ ∉ others

theorem SeededBefore.suffix {calls others : List Call} {identity : Identity}
    (seeded : SeededBefore calls identity others) : others <:+ calls := by
  obtain ⟨earlier, identities, rfl, -, -⟩ := seeded
  exact ⟨earlier ++ [.seed identities], by simp⟩

/-- **Any seeding tells as much as the last one.** -/
theorem awaited_iff {calls : List Call} {identity : Identity} :
    Awaited calls identity ↔
      ∃ others, SeededBefore calls identity others ∧ .event ⟨identity, true⟩ ∉ others := by
  constructor
  · rintro ⟨others, seeded, -, unreported⟩
    exact ⟨others, seeded, unreported⟩
  · rintro ⟨others, seeded, unreported⟩
    classical
    -- The last seeding is the one with the fewest calls after it.
    have known : ∃ size others, SeededBefore calls identity others ∧ others.length = size :=
      ⟨_, others, seeded, rfl⟩
    obtain ⟨last, own, fewest⟩ := Nat.find_spec known
    have least : ∀ further, SeededBefore calls identity further → last <:+ further := by
      intro further its
      refine List.suffix_of_suffix_length_le own.suffix its.suffix ?_
      rw [fewest]
      exact Nat.find_le ⟨further, its, rfl⟩
    exact ⟨last, own, least, fun reported => unreported ((least others seeded).subset reported)⟩

/-- The last call seeds the identity itself, or comes after a seeding. -/
theorem seededBefore_concat {calls others : List Call} {last : Call} {identity : Identity} :
    SeededBefore (calls ++ [last]) identity others ↔
      (∃ shorter, others = shorter ++ [last] ∧ SeededBefore calls identity shorter) ∨
        others = [] ∧ .close ∉ calls ∧ ∃ identities, last = .seed identities ∧
          identity ∈ identities := by
  constructor
  · rintro ⟨earlier, identities, split, opened, member⟩
    rcases List.eq_nil_or_concat others with rfl | ⟨shorter, final, rfl⟩
    · obtain ⟨rfl, same⟩ := List.append_inj' split rfl
      exact Or.inr ⟨rfl, opened, identities, List.singleton_inj.mp same, member⟩
    · rw [List.concat_eq_append, ← List.cons_append, ← List.append_assoc] at split
      obtain ⟨rfl, same⟩ := List.append_inj' split rfl
      rw [List.concat_eq_append, List.singleton_inj.mp same]
      exact Or.inl ⟨shorter, rfl, earlier, identities, rfl, opened, member⟩
  · rintro (⟨shorter, rfl, earlier, identities, rfl, opened, member⟩ |
      ⟨rfl, opened, identities, rfl, member⟩)
    · exact ⟨earlier, identities, by simp, opened, member⟩
    · exact ⟨calls, identities, rfl, opened, member⟩

/-- **One call more.** An identity stays awaited until it is reported, and seeding makes it awaited
as long as the gate has not been closed. -/
theorem awaited_concat {calls : List Call} {last : Call} {identity : Identity} :
    Awaited (calls ++ [last]) identity ↔
      (Awaited calls identity ∧ last ≠ .event ⟨identity, true⟩) ∨
        .close ∉ calls ∧ ∃ identities, last = .seed identities ∧ identity ∈ identities := by
  rw [awaited_iff, awaited_iff]
  constructor
  · rintro ⟨others, seeded, unreported⟩
    rcases seededBefore_concat.mp seeded with ⟨shorter, rfl, own⟩ | ⟨-, opened, now⟩
    · rw [List.mem_append, List.mem_singleton, not_or] at unreported
      exact Or.inl ⟨⟨shorter, own, unreported.1⟩, fun same => unreported.2 same.symm⟩
    · exact Or.inr ⟨opened, now⟩
  · rintro (⟨⟨shorter, own, unreported⟩, other⟩ | ⟨opened, now⟩)
    · refine ⟨shorter ++ [last], seededBefore_concat.mpr (Or.inl ⟨shorter, rfl, own⟩), ?_⟩
      rw [List.mem_append, List.mem_singleton, not_or]
      exact ⟨unreported, fun same => other same.symm⟩
    · exact ⟨[], seededBefore_concat.mpr (Or.inr ⟨rfl, opened, now⟩), List.not_mem_nil⟩

/-! ### The gate after a history -/

theorem isClosed_callAll (name : String) (calls : List Call) :
    ((new name).callAll calls).isClosed = true ↔ .close ∈ calls := by
  induction calls using List.reverseRecOn with
  | nil => simp [callAll, new]
  | append_singleton calls last ih =>
    rw [callAll_concat, List.mem_append, List.mem_singleton, ← ih]
    cases last with
    | seed identities => simp [call, isClosed_seed]
    | close => simp [call, close]
    | event event => simp [call, isClosed_onEvent]

theorem ascending_callAll (name : String) (calls : List Call) :
    Ascending ((new name).callAll calls).pending := by
  induction calls using List.reverseRecOn with
  | nil => exact List.Pairwise.nil
  | append_singleton calls last ih =>
    rw [callAll_concat]
    cases last with
    | seed identities => exact ascending_seed ih identities
    | close => exact ih
    | event event => exact ascending_onEvent ih event

/-- **A gate waits for the identities that its history leaves awaited.** -/
theorem mem_callAll (name : String) (calls : List Call) (identity : Identity) :
    identity ∈ ((new name).callAll calls).pending ↔ Awaited calls identity := by
  induction calls using List.reverseRecOn with
  | nil =>
    have nothing : ¬Awaited [] identity := by
      rintro ⟨others, ⟨earlier, identities, split, -⟩, -⟩
      exact List.cons_ne_nil _ _ (List.append_eq_nil_iff.mp split.symm).2
    simp [callAll, new, nothing]
  | append_singleton calls last ih =>
    rw [callAll_concat, awaited_concat, ← ih]
    cases last with
    | seed identities =>
      by_cases closed : .close ∈ calls
      · have full := seed_closed ((isClosed_callAll name calls).mpr closed) identities
        simp [call, full, closed]
      · have opened : ((new name).callAll calls).isClosed = false :=
          Bool.eq_false_iff.mpr fun full => closed ((isClosed_callAll name calls).mp full)
        simp [call, mem_seed opened, closed, or_comm]
    | close => simp [call, close]
    | event event => simp [call, mem_onEvent (ascending_callAll name calls)]

/-! ### Answers -/

/-- Seeding an open gate answers how many of the identities were new, each counted once. -/
theorem added_seed {gate : Gate} (ascending : Ascending gate.pending)
    (opened : gate.isClosed = false) (identities : List Identity) :
    (gate.seed identities).2.1 =
      (identities.dedup.filter fun identity => identity ∉ gate.pending).length := by
  have open' : ¬gate.isClosed = true := by rw [opened]; exact Bool.false_ne_true
  have after : (gate.seed identities).1.pending.toFinset =
      identities.toFinset ∪ gate.pending.toFinset := by
    ext identity
    rw [List.mem_toFinset, mem_seed opened, Finset.mem_union, List.mem_toFinset, List.mem_toFinset]
  have new : (identities.dedup.filter fun identity => identity ∉ gate.pending).toFinset =
      identities.toFinset \ gate.pending.toFinset := by
    ext identity
    simp
  calc (gate.seed identities).2.1
      = (gate.seed identities).1.pending.length - gate.pending.length := by
        rw [seed, if_neg open']
        rfl
    _ = (identities.toFinset ∪ gate.pending.toFinset).card - gate.pending.toFinset.card := by
        rw [← after, List.toFinset_card_of_nodup (ascending_seed ascending identities).nodup,
          List.toFinset_card_of_nodup ascending.nodup]
    _ = (identities.toFinset \ gate.pending.toFinset).card := by
        rw [← Finset.card_sdiff_add_card, Nat.add_sub_cancel]
    _ = (identities.dedup.filter fun identity => identity ∉ gate.pending).length := by
        rw [← new, List.toFinset_card_of_nodup ((List.nodup_dedup identities).filter _)]

/-- An event converges an identity if it reports one available that is pending. -/
theorem converges_iff (gate : Gate) (event : StatusEvent) :
    (gate.onEvent event).2.1 = true ↔
      event.available = true ∧ event.identity ∈ gate.pending := by
  unfold onEvent
  split
  · next converges => simpa using converges
  · next kept => simpa using kept

/-- **Every answer of a gate.** After any calls on a new gate, the probe names the awaited
identities in ascending order and each once, and succeeds if there is none; the count is the number
of those named. A further seeding answers how many of its identities were not awaited, each counted
once, and nothing once the gate is closed; a further event converges an identity if it reports an
awaited one available. -/
theorem missing_exact (name : String) (calls : List Call) :
    let gate := (new name).callAll calls
    Ascending gate.missing ∧
      (∀ identity, identity ∈ gate.missing ↔ Awaited calls identity) ∧
      (gate.probe = .ok () ↔ ∀ identity, ¬Awaited calls identity) ∧
      gate.count = gate.missing.length ∧
      (∀ identities, (gate.seed identities).2.1 =
        if .close ∈ calls then 0
        else (identities.dedup.filter fun identity => identity ∉ gate.missing).length) ∧
      ∀ event, (gate.onEvent event).2.1 = true ↔
        event.available = true ∧ Awaited calls event.identity := by
  intro gate
  have ascending : Ascending gate.pending := ascending_callAll name calls
  have named : ∀ identity, identity ∈ gate.missing ↔ Awaited calls identity := by
    intro identity
    rw [missing_eq]
    exact mem_callAll name calls identity
  refine ⟨?_, named, ?_, ?_, fun identities => ?_, fun event => ?_⟩
  · rw [missing_eq]
    exact ascending
  · rw [probe_eq_ok_iff, List.eq_nil_iff_forall_not_mem]
    exact forall_congr' fun identity => not_congr (named identity)
  · rw [missing_eq]
    rfl
  · split
    · next closed => rw [seed_closed ((isClosed_callAll name calls).mpr closed)]
    · next notClosed =>
      rw [missing_eq]
      refine added_seed ascending (Bool.eq_false_iff.mpr fun full => notClosed ?_) identities
      exact (isClosed_callAll name calls).mp full
  · rw [converges_iff, ← missing_eq, named]

end Gate

end Aggregation
