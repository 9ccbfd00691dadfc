/-
**What a lossless feed would have brought.**

A listener that falls behind its feed lists the registrations again. How far that makes up for what
the feed has dropped is a comparison of two runs of the same moves, one on the feed as it is and one
on a feed with room for every event. The second run shadows the first (`Shadow`): the stores hold
the same registrations, both listeners are told the same events and take their first listing
together, and from there on the second one only ever waits. Whatever a later listing of the first
shows as available, the second was told or has listed as well.

At rest the two gates differ by what was overlooked, and by nothing else (`pending_iff_lossless`): a
backend remains pending if everything that was sent about its being available was dropped, and it
was unavailable again at every listing. `pending_of_flapped` is such a run.
-/

import Aggregation.Proofs.Listener.Ledger

namespace Aggregation

/-- A new store whose feed keeps so many events for each receiver. -/
def Store.newKeeping (capacity : Nat) (options : StorageOptions) : Store :=
  { Store.new options with events := Feed.empty capacity }

theorem Store.sound_newKeeping (capacity : Nat) (options : StorageOptions) :
    (newKeeping capacity options).Sound where
  keyed known := by cases known
  encodable known := by cases known

namespace Watching

open Listener (replayed)

/-! ### Listeners that take their first listing together -/

/-- Both listeners are as far as the first listing, or the second waits while the first may be
listing again. -/
inductive InStep : Listener → Listener → Prop
  | starting : InStep .starting .starting
  | listing (receiver other : Nat) : InStep (.listing receiver) (.listing other)
  | replaying (receiver other : Nat) (left : List Registration) :
      InStep (.replaying receiver left) (.replaying other left)
  | waiting {listener : Listener} {receiver : Nat} (other : Nat)
      (own : listener.receiver? = some receiver) : InStep listener (.waiting other)

theorem InStep.receiver? {first second : Listener} (inStep : InStep first second) :
    first.receiver?.isSome = second.receiver?.isSome := by
  cases inStep with
  | starting => rfl
  | listing receiver other => rfl
  | replaying receiver other left => rfl
  | waiting other own => rw [own]; rfl

section Turns

variable {watching : Watching} {receiver : Nat}

theorem turn_starting (starting : watching.listener = .starting) :
    ∃ receiver, (watching.step .listen).listener = .listing receiver := by
  rcases watching with ⟨around, listener⟩
  cases starting
  exact ⟨_, rfl⟩

theorem turn_listing (listing : watching.listener = .listing receiver) :
    (watching.step .listen).listener = .replaying receiver watching.store.list := by
  rcases watching with ⟨around, listener⟩
  cases listing
  rfl

theorem turn_replaying {left : List Registration}
    (replaying : watching.listener = .replaying receiver left) :
    (watching.step .listen).listener =
      match left with
      | [] => .waiting receiver
      | _ :: rest => .replaying receiver rest := by
  rcases watching with ⟨around, listener⟩
  cases replaying
  cases left <;> rfl

/-- A listener that waits on an inbox without losses takes the oldest event, if there is one. -/
theorem turn_waiting {capacity : Nat} (regular : watching.Regular capacity)
    (waiting : watching.listener = .waiting receiver) (silent : watching.inbox.missed = 0) :
    (watching.step .listen).listener = .waiting receiver ∧
      (watching.step .listen).inbox = ⟨0, watching.inbox.queue.tail⟩ := by
  cases listened regular with
  | subscribed _ starting => rw [waiting] at starting; cases starting
  | listed _ listing => rw [waiting] at listing; cases listing
  | replayed _ _ _ replaying => rw [waiting] at replaying; cases replaying
  | caughtUp _ replaying => rw [waiting] at replaying; cases replaying
  | idle _ _ empty unchanged =>
    rw [unchanged, empty]
    exact ⟨waiting, rfl⟩
  | lagged _ _ lost => exact absurd silent lost
  | received other event rest same holds turned inbox gate =>
    rw [waiting] at same
    cases same
    rw [holds]
    exact ⟨turned, inbox⟩

end Turns

/-- A step of the listener loses nothing. -/
theorem missed_listen {capacity : Nat} {watching : Watching} (regular : watching.Regular capacity)
    (silent : watching.inbox.missed = 0) : (watching.step .listen).inbox.missed = 0 := by
  cases listened regular with
  | subscribed receiver starting turned inbox gate => rw [inbox]; rfl
  | listed receiver listing turned inbox gate => rw [inbox]; exact silent
  | replayed receiver registration rest replaying turned inbox gate => rw [inbox]; exact silent
  | caughtUp receiver replaying turned inbox gate => rw [inbox]; exact silent
  | idle receiver waiting empty unchanged => rw [unchanged]; exact silent
  | lagged receiver waiting lost turned inbox gate => rw [inbox]
  | received receiver event rest waiting holds turned inbox gate => rw [inbox]

/-! ### The shadow of a run -/

/-- A watching and its shadow, whose feed has room for the moves to come: `told` are the events sent
to either listener, `listed` is what the first has listed and `kept` what the shadow has listed. -/
structure Shadow (room : Nat) (told listed kept : List StatusEvent) (watching shadow : Watching) :
    Prop where
  inStep : InStep watching.listener shadow.listener
  options : watching.store.options = shadow.store.options
  records : watching.store.records = shadow.store.records
  silent : shadow.inbox.missed = 0
  spare : shadow.inbox.queue.length + room ≤ shadow.store.events.capacity
  /-- What is available was seen by the shadow, or will be with its first listing. -/
  shown : ∀ identity, watching.store.IsAvailable identity →
    shadow.ListsAhead ∨ ⟨identity, true⟩ ∈ kept ∨ ⟨identity, true⟩ ∈ told
  within : kept ⊆ listed
  /-- What was ever listed as available was seen by the shadow. -/
  known : ∀ identity, ⟨identity, true⟩ ∈ listed → ⟨identity, true⟩ ∈ kept ∨ ⟨identity, true⟩ ∈ told

section Shadow

variable {capacity large room : Nat} {told listed kept : List StatusEvent}
variable {watching shadow : Watching}

/-- The shadow is told the same. -/
theorem Shadow.told? (shadowed : Shadow room told listed kept watching shadow)
    (write : Store.Write) : shadow.told? write = watching.told? write := by
  have same := shadowed.inStep.receiver?
  unfold Watching.told?
  rw [Store.change_congr shadowed.options shadowed.records]
  rcases first : watching.listener.receiver? with _ | own
  · rcases second : shadow.listener.receiver? with _ | other
    · rfl
    · rw [first, second] at same
      cases same
  · rcases second : shadow.listener.receiver? with _ | other
    · rw [first, second] at same
      cases same
    · rfl

theorem Shadow.lost (shadowed : Shadow (room + 1) told listed kept watching shadow)
    (write : Store.Write) : shadow.lost write = [] := by
  have spare := shadowed.spare
  unfold Watching.lost
  rcases shadow.told? write with _ | event
  · rfl
  · exact Inbox.pushedOut_of_room (by omega)

theorem shadow_write (regular : watching.Regular capacity) (roomy : shadow.Regular large)
    (shadowed : Shadow (room + 1) told listed kept watching shadow) (write : Store.Write) :
    Shadow room (told ++ (watching.told? write).toList) listed kept
      (watching.step (.write write)) (shadow.step (.write write)) := by
  have spare := shadowed.spare
  rw [roomy.capacity] at spare
  have queue : (shadow.step (.write write)).inbox =
      ⟨0, shadow.inbox.queue ++ (watching.told? write).toList⟩ := by
    rw [inbox_write roomy, shadowed.told?, ← shadowed.silent]
    rcases watching.told? write with _ | event
    · rw [Option.elim_none, Option.toList_none, List.append_nil]
    · exact Inbox.push_of_room event (by omega)
  have fits : (watching.told? write).toList.length ≤ 1 := by
    rcases watching.told? write with _ | event
    · exact Nat.zero_le 1
    · exact Nat.le_refl 1
  refine ⟨shadowed.inStep, ?_, ?_, ?_, ?_, fun identity available => ?_, shadowed.within,
    fun identity member => ?_⟩
  · rw [store_write regular, store_write roomy, Store.options_apply, Store.options_apply]
    exact shadowed.options
  · rw [store_write regular, store_write roomy,
      Store.change_congr shadowed.options shadowed.records]
    exact Store.records_apply_congr shadowed.records _
  · rw [queue]
  · rw [queue, (regular_write roomy write).capacity]
    show (shadow.inbox.queue ++ (watching.told? write).toList).length + room ≤ large
    rw [List.length_append]
    omega
  · rw [store_write regular] at available
    rcases Store.isAvailable_apply available with before | sent
    · rcases shadowed.shown identity before with later | seen
      · exact Or.inl (listsAhead_write roomy write later)
      · exact Or.inr (seen.imp_right (List.mem_append_left _))
    · rcases roomy.connected with starting | ⟨receiver, inbox, own, held⟩
      · exact Or.inl (Or.inl starting)
      · have hears : watching.told? write = some ⟨identity, true⟩ := by
          rw [← shadowed.told?, Watching.told?, own, Option.bind_some,
            ← Store.change_congr shadowed.options shadowed.records, sent]
        rw [hears]
        exact Or.inr (Or.inr (List.mem_append_right _ (List.mem_singleton.mpr rfl)))
  · exact (shadowed.known identity member).imp_right (List.mem_append_left _)

theorem Shadow.list (shadowed : Shadow room told listed kept watching shadow) :
    watching.store.list = shadow.store.list := by
  unfold Store.list
  rw [shadowed.records]

theorem Shadow.isAvailable (shadowed : Shadow room told listed kept watching shadow)
    (identity : Identity) :
    watching.store.IsAvailable identity ↔ shadow.store.IsAvailable identity := by
  unfold Store.IsAvailable Store.get?
  rw [shadowed.records]

/-- Both list the same with their next step, or the shadow has had its listing. -/
theorem Shadow.lists (shadowed : Shadow room told listed kept watching shadow) :
    watching.lists = shadow.lists ∨ (shadow.lists = [] ∧ ¬shadow.ListsAhead) := by
  have inStep := shadowed.inStep
  generalize first : watching.listener = before at inStep
  generalize second : shadow.listener = follower at inStep
  unfold Watching.lists
  rw [first, second]
  cases inStep with
  | starting => exact Or.inl rfl
  | listing receiver other => exact Or.inl shadowed.list
  | replaying receiver other left => exact Or.inl rfl
  | waiting other own =>
    exact Or.inr ⟨rfl, fun later => (listsAhead_waiting second).mp later shadowed.silent⟩

theorem inStep_listen (regular : watching.Regular capacity) (roomy : shadow.Regular large)
    (shadowed : Shadow room told listed kept watching shadow) :
    InStep (watching.step .listen).listener (shadow.step .listen).listener := by
  have inStep := shadowed.inStep
  generalize first : watching.listener = before at inStep
  generalize second : shadow.listener = follower at inStep
  cases inStep with
  | starting =>
    obtain ⟨receiver, turned⟩ := turn_starting first
    obtain ⟨other, followed⟩ := turn_starting second
    rw [turned, followed]
    exact .listing receiver other
  | listing receiver other =>
    rw [turn_listing first, turn_listing second, shadowed.list]
    exact .replaying receiver other _
  | replaying receiver other left =>
    rw [turn_replaying first, turn_replaying second]
    cases left with
    | nil => exact .waiting other rfl
    | cons registration rest => exact .replaying receiver other rest
  | waiting other own =>
    obtain ⟨-, receiver, -, -, -, kept, -⟩ := store_listen regular
    rw [(turn_waiting roomy second shadowed.silent).1]
    exact .waiting other kept

theorem shadow_listen (regular : watching.Regular capacity) (roomy : shadow.Regular large)
    (shadowed : Shadow (room + 1) told listed kept watching shadow) :
    Shadow room told (listed ++ watching.listedBy .listen) (kept ++ shadow.listedBy .listen)
      (watching.step .listen) (shadow.step .listen) := by
  obtain ⟨events, -, -, store, -⟩ := store_listen regular
  obtain ⟨others, -, -, followed, capacity, -⟩ := store_listen roomy
  have still : ∀ identity, (watching.step .listen).store.IsAvailable identity ↔
      watching.store.IsAvailable identity := by
    intro identity
    rw [store]
    rfl
  have later : shadow.ListsAhead →
      (shadow.step .listen).ListsAhead ∨ shadow.lists = shadow.store.list := by
    cases (listened roomy).handed with
    | turned ahead gate later => exact later
    | handed event nothing ahead gate later => exact fun before => Or.inl (later before)
  have shows : ∀ identity, watching.store.IsAvailable identity →
      ⟨identity, true⟩ ∈ shadow.store.list.map replayed := by
    intro identity available
    obtain ⟨registration, listed, same⟩ := (Store.isAvailable_iff_list roomy.sound identity).mp
      ((shadowed.isAvailable identity).mp available)
    exact List.mem_map.mpr ⟨registration, listed, same⟩
  refine ⟨inStep_listen regular roomy shadowed, ?_, ?_, missed_listen roomy shadowed.silent, ?_,
    fun identity available => ?_, ?_, fun identity member => ?_⟩
  · rw [store, followed]
    exact shadowed.options
  · rw [store, followed]
    exact shadowed.records
  · have fewer := (queue_listen roomy).length_le
    have spare := shadowed.spare
    rw [roomy.capacity] at spare
    rw [followed]
    show (shadow.step .listen).inbox.queue.length + room ≤ others.capacity
    omega
  · have before := (still identity).mp available
    rcases shadowed.shown identity before with listing | seen
    · rcases later listing with listing | lists
      · exact Or.inl listing
      · refine Or.inr (Or.inl (List.mem_append_right _ ?_))
        rw [listedBy, lists]
        exact shows identity before
    · exact Or.inr (seen.imp_left (List.mem_append_left _))
  · intro event member
    rcases List.mem_append.mp member with earlier | now
    · exact List.mem_append_left _ (shadowed.within earlier)
    · rcases shadowed.lists with same | ⟨none, -⟩
      · rw [listedBy, ← same] at now
        exact List.mem_append_right _ now
      · rw [listedBy, none] at now
        cases now
  · rcases List.mem_append.mp member with earlier | now
    · exact (shadowed.known identity earlier).imp_left (List.mem_append_left _)
    · rcases shadowed.lists with same | ⟨-, past⟩
      · rw [listedBy, same] at now
        exact Or.inl (List.mem_append_right _ now)
      · obtain ⟨registration, listed, same⟩ := List.mem_map.mp now
        have available := (Store.isAvailable_iff_list regular.sound identity).mpr
          ⟨registration, mem_list_of_lists listed, same⟩
        exact ((shadowed.shown identity available).resolve_left past).imp_left
          (List.mem_append_left _)

theorem shadow_step (regular : watching.Regular capacity) (roomy : shadow.Regular large)
    (shadowed : Shadow (room + 1) told listed kept watching shadow) (move : Move) :
    Shadow room (told ++ watching.toldBy move) (listed ++ watching.listedBy move)
      (kept ++ shadow.listedBy move) (watching.step move) (shadow.step move) := by
  cases move with
  | write write =>
    rw [listedBy, listedBy, List.append_nil, List.append_nil]
    exact shadow_write regular roomy shadowed write
  | listen =>
    rw [toldBy, List.append_nil]
    exact shadow_listen regular roomy shadowed
  | seed identities =>
    rw [step_seed regular, step_seed roomy, toldBy, listedBy, listedBy, List.append_nil,
      List.append_nil, List.append_nil]
    exact { shadowed with spare := by have spare := shadowed.spare; omega }

theorem Shadow.toldBy (shadowed : Shadow room told listed kept watching shadow) (move : Move) :
    shadow.toldBy move = watching.toldBy move := by
  cases move with
  | write write => rw [Watching.toldBy, Watching.toldBy, shadowed.told?]
  | listen => rfl
  | seed identities => rfl

theorem Shadow.lostBy (shadowed : Shadow (room + 1) told listed kept watching shadow)
    (move : Move) : shadow.lostBy move = [] := by
  cases move with
  | write write => exact shadowed.lost write
  | listen => rfl
  | seed identities => rfl

/-- **The shadow of a whole run** is told what the run is told, and loses nothing of it. -/
theorem shadow_run (regular : watching.Regular capacity) (roomy : shadow.Regular large)
    (moves : List Move) (shadowed : Shadow moves.length told listed kept watching shadow) :
    Shadow 0 (told ++ along Watching.toldBy watching moves)
        (listed ++ along Watching.listedBy watching moves)
        (kept ++ along Watching.listedBy shadow moves) (watching.run moves) (shadow.run moves) ∧
      along Watching.toldBy shadow moves = along Watching.toldBy watching moves ∧
      along Watching.lostBy shadow moves = [] := by
  induction moves generalizing watching shadow told listed kept with
  | nil =>
    refine ⟨?_, rfl, rfl⟩
    rw [along, along, along, List.append_nil, List.append_nil, List.append_nil]
    exact shadowed
  | cons move rest ih =>
    obtain ⟨after, same, nothing⟩ := ih (regular_step regular move) (regular_step roomy move)
      (shadow_step regular roomy shadowed move)
    rw [List.append_assoc, List.append_assoc, List.append_assoc] at after
    refine ⟨after, ?_, ?_⟩
    · rw [along, along, shadowed.toldBy, same]
    · rw [along, shadowed.lostBy, nothing, List.append_nil]

end Shadow

/-! ### Coming to rest -/

/-- A listener that waits on an inbox without losses reads it empty, and neither is told, loses nor
lists anything. -/
theorem wait_run {capacity receiver : Nat} (steps : Nat) {watching : Watching}
    (regular : watching.Regular capacity) (waiting : watching.listener = .waiting receiver)
    (silent : watching.inbox.missed = 0) :
    (watching.run (List.replicate steps .listen)).listener = .waiting receiver ∧
      (watching.run (List.replicate steps .listen)).inbox = ⟨0, watching.inbox.queue.drop steps⟩ ∧
      along listedBy watching (List.replicate steps .listen) = [] := by
  induction steps generalizing watching with
  | zero =>
    exact ⟨waiting, congrArg (Inbox.mk · watching.inbox.queue) silent, rfl⟩
  | succ steps ih =>
    obtain ⟨turned, inbox⟩ := turn_waiting regular waiting silent
    obtain ⟨still, left, nothing⟩ := ih (regular_step regular .listen) turned (by rw [inbox])
    refine ⟨still, ?_, ?_⟩
    · show ((watching.step .listen).run (List.replicate steps .listen)).inbox = _
      rw [left, inbox, List.drop_tail]
    · show listedBy watching .listen ++ along listedBy (watching.step .listen) _ = _
      rw [nothing, listedBy, lists, waiting]
      rfl

/-- Steps of the listener tell it nothing and lose nothing. -/
theorem along_listen {part : Watching → Move → List StatusEvent}
    (nothing : ∀ watching : Watching, part watching .listen = []) (steps : Nat)
    (watching : Watching) : along part watching (List.replicate steps .listen) = [] := by
  induction steps generalizing watching with
  | zero => rfl
  | succ steps ih =>
    show part watching .listen ++ along part (watching.step .listen) _ = []
    rw [nothing, ih, List.append_nil]

/-- A listener that starts on a new store whose feed keeps so many events, beside a gate that was
seeded and closed. -/
def startedKeeping (capacity : Nat) (options : StorageOptions) (name : String)
    (seeds : List (List Identity)) : Watching :=
  start (Store.newKeeping capacity options) (Gate.seeded name seeds)

/-- The watching that a run reaches from there, after some more steps of the listener. -/
def caughtUp (capacity : Nat) (options : StorageOptions) (name : String)
    (seeds : List (List Identity)) (moves : List Move) (steps : Nat) : Watching :=
  (startedKeeping capacity options name seeds).run (moves ++ List.replicate steps .listen)

/-- In a run from a watching the listener was sent news that the identity is available, all such
news was lost, and the listener never listed it as available. -/
def Overlooked (watching : Watching) (moves : List Move) (identity : Identity) : Prop :=
  ⟨identity, true⟩ ∈ along toldBy watching moves ∧
    (along lostBy watching moves).count ⟨identity, true⟩ =
      (along toldBy watching moves).count ⟨identity, true⟩ ∧
    ⟨identity, true⟩ ∉ along listedBy watching moves

section Lossless

variable (options : StorageOptions) (name : String) (seeds : List (List Identity))
variable {capacity : Nat} {moves : List Move}

theorem regular_startedKeeping (capacity : Nat) :
    (startedKeeping capacity options name seeds).Regular capacity :=
  regular_start (Store.sound_newKeeping capacity options) name seeds

/-- A run on a feed with room for every event shadows the run on the feed as it is. It is told the
same, and loses nothing. -/
theorem shadow_started (room : moves.length ≤ capacity) :
    Shadow 0 (along toldBy (started options name seeds) moves)
        (along listedBy (started options name seeds) moves)
        (along listedBy (startedKeeping capacity options name seeds) moves)
        (reached options name seeds moves)
        ((startedKeeping capacity options name seeds).run moves) ∧
      along toldBy (startedKeeping capacity options name seeds) moves =
        along toldBy (started options name seeds) moves ∧
      along lostBy (startedKeeping capacity options name seeds) moves = [] := by
  have shadowed : Shadow moves.length [] [] [] (started options name seeds)
      (startedKeeping capacity options name seeds) := by
    refine ⟨.starting, rfl, rfl, rfl, ?_, fun _ _ => Or.inl (Or.inl rfl), List.Subset.refl [],
      fun _ => List.not_mem_nil.elim⟩
    show 0 + moves.length ≤ capacity
    omega
  exact shadow_run (regular_started options name seeds)
    (regular_startedKeeping options name seeds capacity) moves shadowed

/-- Where the run on the feed as it is has come to rest, its shadow waits. -/
theorem waiting_startedKeeping (room : moves.length ≤ capacity)
    (quiet : (reached options name seeds moves).isQuiet = true) :
    ∃ receiver, ((startedKeeping capacity options name seeds).run moves).listener =
      .waiting receiver := by
  have inStep := (shadow_started options name seeds room).1.inStep
  obtain ⟨receiver, waiting⟩ := waiting_of_isQuiet quiet
  rw [waiting] at inStep
  generalize ((startedKeeping capacity options name seeds).run moves).listener = follower at inStep
  cases inStep with
  | waiting other own => exact ⟨other, rfl⟩

/-- It comes to rest as well, once it has read its inbox. -/
theorem isQuiet_caughtUp (room : moves.length ≤ capacity)
    (quiet : (reached options name seeds moves).isQuiet = true) :
    ∃ steps, (caughtUp capacity options name seeds moves steps).isQuiet = true := by
  have regular := regular_run (regular_startedKeeping options name seeds capacity) moves
  obtain ⟨receiver, waiting⟩ := waiting_startedKeeping options name seeds room quiet
  obtain ⟨shadowed, -, -⟩ := shadow_started options name seeds room
  obtain ⟨still, inbox, -⟩ := wait_run _ regular waiting shadowed.silent
  refine ⟨((startedKeeping capacity options name seeds).run moves).inbox.queue.length, ?_⟩
  rw [caughtUp, run_append, (regular_run regular _).isQuiet_iff still, inbox]
  exact ⟨rfl, List.drop_length⟩

/-- At rest, what is pending of the seeds was neither sent nor listed as available. -/
theorem pending_caughtUp (room : moves.length ≤ capacity)
    (quiet : (reached options name seeds moves).isQuiet = true) {steps : Nat}
    (rest : (caughtUp capacity options name seeds moves steps).isQuiet = true)
    (identity : Identity) :
    identity ∈ (caughtUp capacity options name seeds moves steps).gate.pending ↔
      identity ∈ seeds.flatten ∧
        ⟨identity, true⟩ ∉ along listedBy (startedKeeping capacity options name seeds) moves ∧
        ⟨identity, true⟩ ∉ along toldBy (started options name seeds) moves := by
  have regular := regular_startedKeeping options name seeds capacity
  obtain ⟨shadowed, told, nothing⟩ := shadow_started options name seeds room
  obtain ⟨receiver, waiting⟩ := waiting_startedKeeping options name seeds room quiet
  have ledger := ledger_run regular ledger_start (moves ++ List.replicate steps .listen)
  rw [along_append, along_append, along_append, along_listen (fun _ => rfl),
    along_listen (fun _ => rfl), told, nothing,
    (wait_run steps (regular_run regular moves) waiting shadowed.silent).2.2] at ledger
  simp only [List.nil_append, List.append_nil] at ledger
  rw [caughtUp, pending_iff_of_quiet (regular_run regular _) ledger rest, List.count_nil, eq_comm,
    List.count_eq_zero]

/-- **What lag costs.** Run a listener on a feed that may drop events, and let it come to rest. Run
it again on a feed with room for every event: it comes to rest as well after some more steps, and
then leaves the same identities pending, but for those that the first run has overlooked. -/
theorem pending_iff_lossless (room : moves.length ≤ capacity)
    (quiet : (reached options name seeds moves).isQuiet = true) :
    (∃ steps, (caughtUp capacity options name seeds moves steps).isQuiet = true) ∧
      ∀ steps, (caughtUp capacity options name seeds moves steps).isQuiet = true →
        ∀ identity, identity ∈ (reached options name seeds moves).gate.pending ↔
          identity ∈ (caughtUp capacity options name seeds moves steps).gate.pending ∨
            identity ∈ seeds.flatten ∧
              Overlooked (started options name seeds) moves identity := by
  refine ⟨isQuiet_caughtUp options name seeds room quiet, fun steps rest identity => ?_⟩
  have ledger := ledger_reached options name seeds moves
  have received := ledger.received ⟨identity, true⟩
  obtain ⟨shadowed, -, -⟩ := shadow_started options name seeds room
  rw [pending_caughtUp options name seeds room quiet rest,
    pending_iff_of_quiet (regular_reached options name seeds moves) ledger quiet]
  constructor
  · rintro ⟨known, unlisted, lost⟩
    by_cases sent : ⟨identity, true⟩ ∈ along toldBy (started options name seeds) moves
    · exact Or.inr ⟨known, sent, lost, unlisted⟩
    · exact Or.inl ⟨known, fun kept => unlisted (shadowed.within kept), sent⟩
  · rintro (⟨known, unlisted, unsent⟩ | ⟨known, sent, lost, unlisted⟩)
    · refine ⟨known, fun listed => ?_, ?_⟩
      · exact (shadowed.known identity listed).elim unlisted unsent
      · have none := List.count_eq_zero.mpr unsent
        omega
    · exact ⟨known, unlisted, lost⟩

end Lossless

/-- A run in which a backend is available for one write only, while the listener waits, and is then
written to more often than the feed keeps. -/
def flapped : List Move :=
  .write (.upsert ⟨⟨"batch", "v1"⟩, ⟨100, 9⟩, none⟩) :: List.replicate 4 .listen ++
    .write (.setAvailable ⟨"batch", "v1"⟩ true none) ::
      List.replicate 257 (.write (.setAvailable ⟨"batch", "v1"⟩ false none)) ++
    List.replicate 264 .listen

theorem pending_iff_lossless_flapped :
    flapped.length ≤ 600 ∧
      (reached (.forAggregator "/registry" .json) "gate" [[⟨"batch", "v1"⟩]]
        flapped).isQuiet = true ∧
      (caughtUp 600 (.forAggregator "/registry" .json) "gate" [[⟨"batch", "v1"⟩]] flapped
        0).isQuiet = true ∧
      (⟨"batch", "v1"⟩ ∈ (reached (.forAggregator "/registry" .json) "gate" [[⟨"batch", "v1"⟩]]
          flapped).gate.pending ↔
        ⟨"batch", "v1"⟩ ∈ (caughtUp 600 (.forAggregator "/registry" .json) "gate"
            [[⟨"batch", "v1"⟩]] flapped 0).gate.pending ∨
          ⟨"batch", "v1"⟩ ∈ [[(⟨"batch", "v1"⟩ : Identity)]].flatten ∧
            Overlooked (started (.forAggregator "/registry" .json) "gate" [[⟨"batch", "v1"⟩]])
              flapped ⟨"batch", "v1"⟩) := by
  have room : flapped.length ≤ 600 := by decide +kernel
  have quiet : (reached (.forAggregator "/registry" .json) "gate" [[⟨"batch", "v1"⟩]]
      flapped).isQuiet = true := by decide +kernel
  have rest : (caughtUp 600 (.forAggregator "/registry" .json) "gate" [[⟨"batch", "v1"⟩]] flapped
      0).isQuiet = true := by decide +kernel
  exact ⟨room, quiet, rest, (pending_iff_lossless _ _ _ room quiet).2 0 rest ⟨"batch", "v1"⟩⟩

/-- The backend was sent as available, and is pending nevertheless. Nothing would be pending if the
feed had kept every event. -/
theorem pending_of_flapped :
    (reached (.forAggregator "/registry" .json) "gate" [[⟨"batch", "v1"⟩]] flapped).isQuiet = true ∧
      ⟨⟨"batch", "v1"⟩, true⟩ ∈
        along toldBy (started (.forAggregator "/registry" .json) "gate" [[⟨"batch", "v1"⟩]])
          flapped ∧
      (reached (.forAggregator "/registry" .json) "gate" [[⟨"batch", "v1"⟩]] flapped).gate.pending =
        [⟨"batch", "v1"⟩] ∧
      (caughtUp 600 (.forAggregator "/registry" .json) "gate" [[⟨"batch", "v1"⟩]] flapped
        0).isQuiet = true ∧
      (caughtUp 600 (.forAggregator "/registry" .json) "gate" [[⟨"batch", "v1"⟩]] flapped
        0).gate.pending = [] := by
  refine ⟨?_, ?_, ?_, ?_, ?_⟩ <;> decide +kernel

end Watching

end Aggregation
