/-
**Bounded feeds.**

A `Feed` passes each message to every receiver that is subscribed when it is sent. A receiver holds
at most `capacity` unread messages: a further one pushes out the oldest, and the receiver is told
how many it lost before it reads on. Receivers are numbered in the order of their subscription, and
a number is never given twice.
-/

namespace Aggregation

/-- What a receiver has yet to read: how many messages it lost, then the ones it kept. -/
structure Inbox (α : Type) where
  missed : Nat
  queue : List α

/-- What reading from an inbox gives. -/
inductive Received (α : Type) where
  | lagged (count : Nat)
  | message (value : α)
  | nothing
deriving DecidableEq

namespace Inbox

variable {α : Type}

/-- An inbox that nothing was sent to. -/
def empty : Inbox α := ⟨0, []⟩

/-- Adds a message, pushing out the oldest one if the inbox is full. -/
def push (capacity : Nat) (inbox : Inbox α) (message : α) : Inbox α :=
  if inbox.queue.length < capacity then ⟨inbox.missed, inbox.queue ++ [message]⟩
  else ⟨inbox.missed + 1, inbox.queue.tail ++ [message]⟩

/-- Reads once: a loss is reported first, then the messages follow from the oldest on. -/
def receive (inbox : Inbox α) : Received α × Inbox α :=
  if inbox.missed ≠ 0 then (.lagged inbox.missed, ⟨0, inbox.queue⟩)
  else
    match inbox.queue with
    | [] => (.nothing, inbox)
    | message :: rest => (.message message, ⟨0, rest⟩)

/-- Whether reading would give anything. -/
def hasNews (inbox : Inbox α) : Bool := inbox.missed ≠ 0 || !inbox.queue.isEmpty

end Inbox

/-- A channel with its receivers; one that unsubscribed leaves its number unused. -/
structure Feed (α : Type) where
  capacity : Nat
  inboxes : List (Option (Inbox α))

namespace Feed

variable {α : Type}

/-- A channel without receivers. -/
def empty (capacity : Nat) : Feed α := ⟨capacity, []⟩

/-- Adds a receiver, which gets what is sent from now on, and answers its number. -/
def subscribe (feed : Feed α) : Feed α × Nat :=
  (⟨feed.capacity, feed.inboxes ++ [some Inbox.empty]⟩, feed.inboxes.length)

/-- Removes a receiver. -/
def unsubscribe (feed : Feed α) (receiver : Nat) : Feed α :=
  ⟨feed.capacity, feed.inboxes.set receiver none⟩

/-- The inbox of a receiver that is still subscribed. -/
def inbox? (feed : Feed α) (receiver : Nat) : Option (Inbox α) := feed.inboxes[receiver]?.join

/-- The number of receivers. -/
def receivers (feed : Feed α) : Nat := feed.inboxes.countP Option.isSome

/-- Passes a message to every receiver. -/
def send (feed : Feed α) (message : α) : Feed α :=
  ⟨feed.capacity, feed.inboxes.map (Option.map fun inbox => inbox.push feed.capacity message)⟩

/-- Reads once from a receiver. -/
def receive (feed : Feed α) (receiver : Nat) : Received α × Feed α :=
  match feed.inbox? receiver with
  | none => (.nothing, feed)
  | some inbox =>
    let (received, rest) := inbox.receive
    (received, ⟨feed.capacity, feed.inboxes.set receiver (some rest)⟩)

/-- Reads a receiver empty: the number of lost messages and the messages kept. -/
def drain (feed : Feed α) (receiver : Nat) : Inbox α × Feed α :=
  match feed.inbox? receiver with
  | none => (Inbox.empty, feed)
  | some inbox => (inbox, ⟨feed.capacity, feed.inboxes.set receiver (some Inbox.empty)⟩)

/-- Whether a receiver has something to read. -/
def hasNews (feed : Feed α) (receiver : Nat) : Bool :=
  (feed.inbox? receiver).elim false Inbox.hasNews

end Feed

end Aggregation
