/-
**What a shutdown receiver holds.**

A receiver `isSubscribed` from the moment it is made until it is given back. A signal reaches every
receiver that is subscribed then, and no other (`isSignalled_signal`): a receiver made after it
holds nothing (`isSignalled_subscribe`). What is done with one receiver changes no other.
-/

import Aggregation.Proofs.Feed
import Aggregation.Shutdown

namespace Aggregation

namespace Shutdown

/-- Whether a receiver was made and not given back. -/
def isSubscribed (shutdown : Shutdown) (receiver : Nat) : Bool :=
  (shutdown.signals.inbox? receiver).isSome

/-- The number of receivers made so far, and the number of the next one. -/
def made (shutdown : Shutdown) : Nat := shutdown.signals.inboxes.length

theorem isSignalled_congr {shutdown other : Shutdown} {receiver : Nat}
    (same : shutdown.signals.inbox? receiver = other.signals.inbox? receiver) :
    shutdown.isSignalled receiver = other.isSignalled receiver := by
  unfold isSignalled Feed.hasNews
  rw [same]

theorem isSubscribed_congr {shutdown other : Shutdown} {receiver : Nat}
    (same : shutdown.signals.inbox? receiver = other.signals.inbox? receiver) :
    shutdown.isSubscribed receiver = other.isSubscribed receiver := by
  unfold isSubscribed
  rw [same]

theorem isSubscribed_of_isSignalled {shutdown : Shutdown} {receiver : Nat}
    (signalled : shutdown.isSignalled receiver = true) :
    shutdown.isSubscribed receiver = true := by
  unfold isSignalled Feed.hasNews at signalled
  unfold isSubscribed
  rcases held : shutdown.signals.inbox? receiver with _ | inbox
  · rw [held] at signalled
    cases signalled
  · rfl

theorem lt_made_of_isSubscribed {shutdown : Shutdown} {receiver : Nat}
    (subscribed : shutdown.isSubscribed receiver = true) : receiver < shutdown.made := by
  obtain ⟨inbox, held⟩ := Option.isSome_iff_exists.mp subscribed
  exact Feed.lt_length_of_inbox? held

/-! ### Making a receiver -/

/-- A receiver that is made holds nothing, and the others what they did. -/
theorem isSignalled_subscribe (shutdown : Shutdown) (receiver : Nat) :
    shutdown.subscribe.1.isSignalled receiver = shutdown.isSignalled receiver := by
  by_cases new : receiver = shutdown.made
  · subst new
    have empty : shutdown.subscribe.1.signals.inbox? shutdown.made = some Inbox.empty :=
      Feed.inbox?_subscribe shutdown.signals
    -- Before it is made it holds nothing either: its number is beyond the list.
    have unheld : shutdown.isSignalled shutdown.made = false := by
      refine Bool.eq_false_iff.mpr fun signalled => ?_
      exact absurd (lt_made_of_isSubscribed (isSubscribed_of_isSignalled signalled))
        (Nat.lt_irrefl _)
    rw [unheld, isSignalled, Feed.hasNews_of_inbox? empty]
    rfl
  · exact isSignalled_congr (Feed.inbox?_subscribe_of_ne new)

/-- The new receiver is subscribed, and so are the others that were. -/
theorem isSubscribed_subscribe (shutdown : Shutdown) (receiver : Nat) :
    shutdown.subscribe.1.isSubscribed receiver =
      (decide (receiver = shutdown.made) || shutdown.isSubscribed receiver) := by
  by_cases new : receiver = shutdown.made
  · subst new
    have empty : shutdown.subscribe.1.signals.inbox? shutdown.made = some Inbox.empty :=
      Feed.inbox?_subscribe shutdown.signals
    simp [isSubscribed, empty]
  · have same : shutdown.subscribe.1.isSubscribed receiver = shutdown.isSubscribed receiver :=
      isSubscribed_congr (Feed.inbox?_subscribe_of_ne new)
    simp [same, new]

theorem made_subscribe (shutdown : Shutdown) : shutdown.subscribe.1.made = shutdown.made + 1 :=
  Feed.length_subscribe shutdown.signals

/-! ### Signals -/

/-- **A signal reaches the receivers that are subscribed.** -/
theorem isSignalled_signal (shutdown : Shutdown) (receiver : Nat) :
    shutdown.signal.isSignalled receiver = shutdown.isSubscribed receiver := by
  have sent : shutdown.signal.signals.inbox? receiver =
      (shutdown.signals.inbox? receiver).map fun inbox => inbox.push shutdown.signals.capacity () :=
    Feed.inbox?_send shutdown.signals () receiver
  unfold isSignalled isSubscribed Feed.hasNews
  rw [sent]
  rcases shutdown.signals.inbox? receiver with _ | inbox
  · rfl
  · exact Inbox.hasNews_push _ inbox ()

theorem isSubscribed_signal (shutdown : Shutdown) (receiver : Nat) :
    shutdown.signal.isSubscribed receiver = shutdown.isSubscribed receiver := by
  have sent : shutdown.signal.signals.inbox? receiver =
      (shutdown.signals.inbox? receiver).map fun inbox => inbox.push shutdown.signals.capacity () :=
    Feed.inbox?_send shutdown.signals () receiver
  rw [isSubscribed, sent, Option.isSome_map]
  rfl

theorem made_signal (shutdown : Shutdown) : shutdown.signal.made = shutdown.made :=
  Feed.length_send shutdown.signals ()

/-! ### Reading a receiver and giving it back -/

/-- Reading gives something exactly if the receiver is signalled. -/
theorem receive_eq_nothing_iff (shutdown : Shutdown) (receiver : Nat) :
    (shutdown.receive receiver).1 = .nothing ↔ shutdown.isSignalled receiver = false := by
  unfold receive isSignalled Feed.hasNews Feed.receive
  rcases shutdown.signals.inbox? receiver with _ | inbox
  · simp
  · exact inbox.receive_eq_nothing_iff

theorem isSignalled_receive_of_ne {shutdown : Shutdown} {receiver other : Nat}
    (distinct : other ≠ receiver) :
    (shutdown.receive receiver).2.isSignalled other = shutdown.isSignalled other :=
  isSignalled_congr (Feed.inbox?_receive_of_ne distinct)

theorem isSubscribed_receive_of_ne {shutdown : Shutdown} {receiver other : Nat}
    (distinct : other ≠ receiver) :
    (shutdown.receive receiver).2.isSubscribed other = shutdown.isSubscribed other :=
  isSubscribed_congr (Feed.inbox?_receive_of_ne distinct)

theorem made_receive (shutdown : Shutdown) (receiver : Nat) :
    (shutdown.receive receiver).2.made = shutdown.made :=
  Feed.length_receive shutdown.signals receiver

theorem isSignalled_unsubscribe_of_ne {shutdown : Shutdown} {receiver other : Nat}
    (distinct : other ≠ receiver) :
    (shutdown.unsubscribe receiver).isSignalled other = shutdown.isSignalled other := by
  refine isSignalled_congr ?_
  show (shutdown.signals.unsubscribe receiver).inbox? other = _
  rw [Feed.inbox?_unsubscribe, if_neg distinct]

theorem isSubscribed_unsubscribe_of_ne {shutdown : Shutdown} {receiver other : Nat}
    (distinct : other ≠ receiver) :
    (shutdown.unsubscribe receiver).isSubscribed other = shutdown.isSubscribed other := by
  refine isSubscribed_congr ?_
  show (shutdown.signals.unsubscribe receiver).inbox? other = _
  rw [Feed.inbox?_unsubscribe, if_neg distinct]

theorem made_unsubscribe (shutdown : Shutdown) (receiver : Nat) :
    (shutdown.unsubscribe receiver).made = shutdown.made :=
  Feed.length_unsubscribe shutdown.signals receiver

end Shutdown

end Aggregation
