/-
**What a receiver of a bounded feed holds.**

An inbox keeps the newest messages: a further one goes to the end, and what it pushes out is the
oldest (`pushedOut_append_queue`). A loss stays visible until the receiver reads it, so an inbox
that reports none has lost nothing since the last report (`missed_push_eq_zero`). Sending reaches
every receiver and leaves it something to read (`hasNews_push`); reading, subscribing and
unsubscribing change the inbox of one receiver only.
-/

import Aggregation.Feed

namespace Aggregation

variable {α : Type}

namespace Inbox

/-- What a further message would push out: the oldest message of a full inbox. -/
def pushedOut (capacity : Nat) (inbox : Inbox α) : List α :=
  if inbox.queue.length < capacity then [] else inbox.queue.take 1

/-- **A message goes to the end, and only the oldest one may go for it.** -/
theorem pushedOut_append_queue (capacity : Nat) (inbox : Inbox α) (message : α) :
    inbox.pushedOut capacity ++ (inbox.push capacity message).queue = inbox.queue ++ [message] := by
  rcases inbox with ⟨missed, queue⟩
  unfold pushedOut push
  split
  · rfl
  · cases queue with
    | nil => rfl
    | cons first rest => rfl

/-- An inbox that has nothing to report after a message had nothing to report before it, and kept
everything. -/
theorem missed_push_eq_zero {capacity : Nat} {inbox : Inbox α} {message : α}
    (silent : (inbox.push capacity message).missed = 0) :
    inbox.missed = 0 ∧ inbox.pushedOut capacity = [] := by
  unfold push at silent
  unfold pushedOut
  split at silent
  · next room => exact ⟨silent, if_pos room⟩
  · exact absurd silent (Nat.succ_ne_zero _)

/-- An inbox with room takes a message and loses nothing. -/
theorem push_of_room {capacity : Nat} {inbox : Inbox α} (message : α)
    (room : inbox.queue.length < capacity) :
    inbox.push capacity message = ⟨inbox.missed, inbox.queue ++ [message]⟩ :=
  if_pos room

theorem pushedOut_of_room {capacity : Nat} {inbox : Inbox α}
    (room : inbox.queue.length < capacity) : inbox.pushedOut capacity = [] :=
  if_pos room

/-- A loss is reported before anything else. -/
theorem receive_of_missed {missed : Nat} (lost : missed ≠ 0) (queue : List α) :
    (⟨missed, queue⟩ : Inbox α).receive = (.lagged missed, ⟨0, queue⟩) :=
  if_pos lost

/-- Without a loss the messages come in order. -/
theorem receive_message (message : α) (rest : List α) :
    (⟨0, message :: rest⟩ : Inbox α).receive = (.message message, ⟨0, rest⟩) := rfl

theorem hasNews_eq_false_iff (inbox : Inbox α) :
    inbox.hasNews = false ↔ inbox.missed = 0 ∧ inbox.queue = [] := by
  simp [hasNews]

/-- Whatever the capacity, the newest message is kept. -/
theorem hasNews_push (capacity : Nat) (inbox : Inbox α) (message : α) :
    (inbox.push capacity message).hasNews = true := by
  unfold hasNews push
  split <;> simp

/-- Reading gives something exactly if there is something. -/
theorem receive_eq_nothing_iff (inbox : Inbox α) :
    inbox.receive.1 = .nothing ↔ inbox.hasNews = false := by
  rcases inbox with ⟨missed, queue⟩
  rw [hasNews_eq_false_iff]
  by_cases lost : missed = 0
  · cases queue with
    | nil => simp [receive, lost]
    | cons first rest => simp [receive, lost]
  · simp [receive, lost]

end Inbox

namespace Feed

theorem lt_length_of_inbox? {feed : Feed α} {receiver : Nat} {inbox : Inbox α}
    (held : feed.inbox? receiver = some inbox) : receiver < feed.inboxes.length := by
  refine Nat.lt_of_not_le fun beyond => ?_
  unfold inbox? at held
  rw [List.getElem?_eq_none beyond] at held
  cases held

/-- What is set for one receiver leaves the others alone. -/
theorem inbox?_set (feed : Feed α) (receiver other : Nat) (inbox : Option (Inbox α)) :
    (⟨feed.capacity, feed.inboxes.set receiver inbox⟩ : Feed α).inbox? other =
      if other = receiver ∧ receiver < feed.inboxes.length then inbox else feed.inbox? other := by
  unfold inbox?
  rw [List.getElem?_set]
  by_cases same : receiver = other
  · subst same
    by_cases known : receiver < feed.inboxes.length
    · simp [known]
    · simp [known]
  · have distinct : ¬other = receiver := fun equal => same equal.symm
    simp [same, distinct]

/-- A message reaches every receiver. -/
theorem inbox?_send (feed : Feed α) (message : α) (receiver : Nat) :
    (feed.send message).inbox? receiver =
      (feed.inbox? receiver).map fun inbox => inbox.push feed.capacity message := by
  unfold inbox? send
  rw [List.getElem?_map]
  rcases feed.inboxes[receiver]? with _ | _ | inbox <;> rfl

/-- A new receiver has received nothing. -/
theorem inbox?_subscribe (feed : Feed α) :
    feed.subscribe.1.inbox? feed.subscribe.2 = some Inbox.empty := by
  unfold inbox? subscribe
  simp

/-- A new receiver changes no other. -/
theorem inbox?_subscribe_of_ne {feed : Feed α} {receiver : Nat}
    (other : receiver ≠ feed.inboxes.length) :
    feed.subscribe.1.inbox? receiver = feed.inbox? receiver := by
  unfold inbox? subscribe
  rcases Nat.lt_or_gt_of_ne other with known | beyond
  · rw [List.getElem?_append_left known]
  · have past : (feed.inboxes ++ [some Inbox.empty]).length ≤ receiver := by
      rw [List.length_append]
      exact beyond
    rw [List.getElem?_eq_none past, List.getElem?_eq_none (Nat.le_of_lt beyond)]

/-- A receiver that is removed holds nothing any more, and the others what they did. -/
theorem inbox?_unsubscribe (feed : Feed α) (receiver other : Nat) :
    (feed.unsubscribe receiver).inbox? other =
      if other = receiver then none else feed.inbox? other := by
  rw [unsubscribe, inbox?_set]
  by_cases same : other = receiver
  · subst same
    by_cases known : other < feed.inboxes.length
    · simp [known]
    · simp [known, inbox?]
  · simp [same]

/-- What a receiver reads is what its inbox gives. -/
theorem receive_of_inbox? {feed : Feed α} {receiver : Nat} {inbox : Inbox α}
    (held : feed.inbox? receiver = some inbox) :
    feed.receive receiver =
      (inbox.receive.1, ⟨feed.capacity, feed.inboxes.set receiver (some inbox.receive.2)⟩) := by
  unfold receive
  rw [held]

/-- After reading, the inbox is what reading left of it. -/
theorem inbox?_receive {feed : Feed α} {receiver : Nat} {inbox : Inbox α}
    (held : feed.inbox? receiver = some inbox) :
    (feed.receive receiver).2.inbox? receiver = some inbox.receive.2 := by
  rw [receive_of_inbox? held, inbox?_set, if_pos ⟨rfl, lt_length_of_inbox? held⟩]

/-- Reading from one receiver leaves the others alone. -/
theorem inbox?_receive_of_ne {feed : Feed α} {receiver other : Nat} (distinct : other ≠ receiver) :
    (feed.receive receiver).2.inbox? other = feed.inbox? other := by
  unfold receive
  split
  · rfl
  · rw [inbox?_set, if_neg fun both => distinct both.1]

@[simp] theorem capacity_receive (feed : Feed α) (receiver : Nat) :
    (feed.receive receiver).2.capacity = feed.capacity := by
  unfold receive
  split <;> rfl

@[simp] theorem length_send (feed : Feed α) (message : α) :
    (feed.send message).inboxes.length = feed.inboxes.length :=
  List.length_map _

@[simp] theorem length_unsubscribe (feed : Feed α) (receiver : Nat) :
    (feed.unsubscribe receiver).inboxes.length = feed.inboxes.length :=
  List.length_set

@[simp] theorem length_receive (feed : Feed α) (receiver : Nat) :
    (feed.receive receiver).2.inboxes.length = feed.inboxes.length := by
  unfold receive
  split
  · rfl
  · exact List.length_set

@[simp] theorem length_subscribe (feed : Feed α) :
    feed.subscribe.1.inboxes.length = feed.inboxes.length + 1 :=
  List.length_append

theorem hasNews_of_inbox? {feed : Feed α} {receiver : Nat} {inbox : Inbox α}
    (held : feed.inbox? receiver = some inbox) : feed.hasNews receiver = inbox.hasNews := by
  unfold hasNews
  rw [held]
  rfl

end Feed

end Aggregation
