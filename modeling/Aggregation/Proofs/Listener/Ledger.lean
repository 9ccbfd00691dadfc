/-
**What becomes of the events.**

Every event that is sent after the listener has subscribed is received, or is lost, or is still in
the inbox. A run keeps account of it: `toldBy`, `lostBy` and `listedBy` are what a move sends to the
listener, makes it lose, and makes it list, and `along` collects them over a run. The `Ledger`
relates them to the watching that the run reaches: what was told and listed has been handed to the
gate unless it is lost or still ahead, and an identity is pending exactly as long as nothing that
reports it available has been handed over.

`pending_iff_of_quiet` draws the balance once the listener waits with nothing to receive.
-/

import Aggregation.Proofs.Listener.Interleaving

namespace Aggregation

namespace Watching

open Listener (replayed)

/-- What the moves of a run contribute, in order. -/
def along {α : Type} (part : Watching → Move → List α) : Watching → List Move → List α
  | _, [] => []
  | watching, move :: rest => part watching move ++ along part (watching.step move) rest

theorem along_append {α : Type} (part : Watching → Move → List α) (second : List Move) :
    ∀ (watching : Watching) (first : List Move), along part watching (first ++ second) =
      along part watching first ++ along part (watching.run first) second
  | _, [] => rfl
  | watching, move :: rest => by
    show part watching move ++ along part (watching.step move) (rest ++ second) = _
    rw [along_append part second (watching.step move) rest, ← List.append_assoc]
    rfl

/-- The event that a move sends to the listener. -/
def toldBy (watching : Watching) : Move → List StatusEvent
  | .write write => (watching.told? write).toList
  | .listen => []
  | .seed _ => []

/-- The event that the listener loses by a move. -/
def lostBy (watching : Watching) : Move → List StatusEvent
  | .write write => watching.lost write
  | .listen => []
  | .seed _ => []

/-- The conditions that the listener lists with a move. -/
def listedBy (watching : Watching) : Move → List StatusEvent
  | .write _ => []
  | .listen => watching.lists.map replayed
  | .seed _ => []

/-- The account of what was told, lost and listed. -/
structure Ledger (seeded : List Identity) (watching : Watching)
    (told lost listed : List StatusEvent) : Prop where
  /-- What is lost or still in the inbox was told. -/
  received : ∀ event, lost.count event + watching.inbox.queue.count event ≤ told.count event
  /-- What is lost or still ahead was told or listed. -/
  handed : ∀ event,
    watching.ahead.count event + lost.count event ≤ told.count event + listed.count event
  /-- A seeded identity is pending while nothing that reports it available was handed over. -/
  pending : ∀ identity, identity ∈ watching.gate.pending ↔ identity ∈ seeded ∧
    watching.ahead.count ⟨identity, true⟩ + lost.count ⟨identity, true⟩ =
      told.count ⟨identity, true⟩ + listed.count ⟨identity, true⟩

section Ledger

variable {capacity : Nat} {seeded : List Identity} {watching : Watching}
variable {told lost listed : List StatusEvent}

theorem ledger_start {store : Store} {name : String} {seeds : List (List Identity)} :
    (start store (Gate.seeded name seeds)).Ledger seeds.flatten [] [] [] where
  received _ := Nat.le_refl _
  handed _ := Nat.le_refl _
  pending identity := (Gate.mem_seeded name seeds identity).trans (and_iff_left rfl).symm

theorem ledger_write (regular : watching.Regular capacity)
    (ledger : watching.Ledger seeded told lost listed) (write : Store.Write) :
    (watching.step (.write write)).Ledger seeded (told ++ watching.toldBy (.write write))
      (lost ++ watching.lostBy (.write write)) listed := by
  have balance : ∀ event : StatusEvent,
      (watching.lost write).count event +
          (watching.step (.write write)).inbox.queue.count event =
        watching.inbox.queue.count event + (watching.told? write).toList.count event := by
    intro event
    rw [← List.count_append, ← List.count_append, lost_append_queue regular]
  have before : ∀ event : StatusEvent, watching.ahead.count event =
      (watching.listener.left.map replayed).count event + watching.inbox.queue.count event :=
    fun event => List.count_append
  have after : ∀ event : StatusEvent, (watching.step (.write write)).ahead.count event =
      (watching.listener.left.map replayed).count event +
        (watching.step (.write write)).inbox.queue.count event :=
    fun event => List.count_append
  refine ⟨fun event => ?_, fun event => ?_, fun identity => ?_⟩
  · have received := ledger.received event
    have moved := balance event
    rw [List.count_append, List.count_append, toldBy, lostBy]
    omega
  · have handed := ledger.handed event
    have moved := balance event
    rw [List.count_append, List.count_append, after, toldBy, lostBy]
    rw [before] at handed
    omega
  · have moved := balance ⟨identity, true⟩
    show identity ∈ watching.gate.pending ↔ _
    rw [ledger.pending, List.count_append, List.count_append, after, before, toldBy, lostBy]
    constructor
    · exact fun ⟨known, even⟩ => ⟨known, by omega⟩
    · exact fun ⟨known, even⟩ => ⟨known, by omega⟩

/-- A step of the listener takes from the front of its inbox. -/
theorem queue_listen (regular : watching.Regular capacity) :
    (watching.step .listen).inbox.queue.Sublist watching.inbox.queue := by
  have kept : ∀ after : Inbox StatusEvent, after.queue = watching.inbox.queue →
      after.queue.Sublist watching.inbox.queue :=
    fun after same => same ▸ List.Sublist.refl _
  cases listened regular with
  | subscribed receiver starting turned inbox gate =>
    rw [inbox]
    exact List.nil_sublist _
  | listed receiver listing turned inbox gate => exact kept _ (by rw [inbox])
  | replayed receiver registration rest replaying turned inbox gate => exact kept _ (by rw [inbox])
  | caughtUp receiver replaying turned inbox gate => exact kept _ (by rw [inbox])
  | idle receiver waiting empty unchanged => exact kept _ (by rw [unchanged])
  | lagged receiver waiting lost turned inbox gate => exact kept _ (by rw [inbox])
  | received receiver event rest waiting holds turned inbox gate =>
    rw [inbox, holds]
    exact List.sublist_cons_self event rest

theorem ledger_listen (regular : watching.Regular capacity)
    (ledger : watching.Ledger seeded told lost listed) :
    (watching.step .listen).Ledger seeded told lost (listed ++ watching.listedBy .listen) := by
  have received : ∀ event, lost.count event +
      (watching.step .listen).inbox.queue.count event ≤ told.count event := by
    intro event
    have fewer := (queue_listen regular).count_le event
    have before := ledger.received event
    omega
  cases (listened regular).handed with
  | turned ahead gate later =>
    refine ⟨received, fun event => ?_, fun identity => ?_⟩
    · have handed := ledger.handed event
      rw [ahead, List.count_append, List.count_append, listedBy]
      omega
    · rw [gate, ledger.pending, ahead, List.count_append, List.count_append, listedBy]
      constructor
      · exact fun ⟨known, even⟩ => ⟨known, by omega⟩
      · exact fun ⟨known, even⟩ => ⟨known, by omega⟩
  | handed event nothing ahead gate later =>
    have listing : watching.listedBy .listen = [] := by rw [listedBy, nothing]; rfl
    rw [listing, List.append_nil]
    have fewer : ∀ other, watching.ahead.count other =
        (watching.step .listen).ahead.count other + if event = other then 1 else 0 := by
      intro other
      rw [ahead, List.count_cons]
      simp only [beq_iff_eq]
    refine ⟨received, fun other => ?_, fun identity => ?_⟩
    · have handed := ledger.handed other
      have moved := fewer other
      omega
    · have handed := ledger.handed ⟨identity, true⟩
      have moved := fewer ⟨identity, true⟩
      rw [gate, Gate.mem_onEvent regular.ascending, ledger.pending]
      by_cases same : event = ⟨identity, true⟩
      · rw [if_pos same] at moved
        constructor
        · exact fun both => absurd same both.2
        · exact fun ⟨known, even⟩ => absurd even (by omega)
      · rw [if_neg same] at moved
        constructor
        · exact fun ⟨⟨known, even⟩, _⟩ => ⟨known, by omega⟩
        · exact fun ⟨known, even⟩ => ⟨⟨known, by omega⟩, same⟩

theorem ledger_step (regular : watching.Regular capacity)
    (ledger : watching.Ledger seeded told lost listed) (move : Move) :
    (watching.step move).Ledger seeded (told ++ watching.toldBy move)
      (lost ++ watching.lostBy move) (listed ++ watching.listedBy move) := by
  cases move with
  | write write =>
    rw [listedBy, List.append_nil]
    exact ledger_write regular ledger write
  | listen =>
    rw [toldBy, lostBy, List.append_nil, List.append_nil]
    exact ledger_listen regular ledger
  | seed identities =>
    rw [step_seed regular, toldBy, lostBy, listedBy, List.append_nil, List.append_nil,
      List.append_nil]
    exact ledger

/-- **The books balance after every run.** -/
theorem ledger_run (regular : watching.Regular capacity)
    (ledger : watching.Ledger seeded told lost listed) (moves : List Move) :
    (watching.run moves).Ledger seeded (told ++ along toldBy watching moves)
      (lost ++ along lostBy watching moves) (listed ++ along listedBy watching moves) := by
  induction moves generalizing watching told lost listed with
  | nil =>
    rw [along, along, along, List.append_nil, List.append_nil, List.append_nil]
    exact ledger
  | cons move rest ih =>
    rw [along, along, along, ← List.append_assoc, ← List.append_assoc, ← List.append_assoc]
    exact ih (regular_step regular move) (ledger_step regular ledger move)

theorem ledger_reached (options : StorageOptions) (name : String) (seeds : List (List Identity))
    (moves : List Move) :
    (reached options name seeds moves).Ledger seeds.flatten
      (along toldBy (started options name seeds) moves)
      (along lostBy (started options name seeds) moves)
      (along listedBy (started options name seeds) moves) :=
  ledger_run (regular_started options name seeds) ledger_start moves

/-- **The balance.** Once the listener waits with nothing to receive, a seeded identity is pending
if it was never listed available and everything sent about its being available was lost. -/
theorem pending_iff_of_quiet (regular : watching.Regular capacity)
    (ledger : watching.Ledger seeded told lost listed) (quiet : watching.isQuiet = true)
    (identity : Identity) :
    identity ∈ watching.gate.pending ↔ identity ∈ seeded ∧ ⟨identity, true⟩ ∉ listed ∧
      lost.count ⟨identity, true⟩ = told.count ⟨identity, true⟩ := by
  have received := ledger.received ⟨identity, true⟩
  rw [ledger.pending, (regular.quiet quiet).2, List.count_nil, ← List.count_eq_zero]
  constructor
  · exact fun ⟨known, even⟩ => ⟨known, by omega, by omega⟩
  · exact fun ⟨known, unlisted, even⟩ => ⟨known, by omega⟩

end Ledger

end Watching

end Aggregation
