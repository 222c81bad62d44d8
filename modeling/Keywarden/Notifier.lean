/-!
# Notifications

Events are handed to every subscriber.  The latest sixteen are kept; a subscriber
who falls further behind is told how many it missed and goes on with the oldest one
that is kept.
-/

namespace Keywarden

/-- What subscribers are told. -/
structure Event where
  message : String
deriving DecidableEq, Repr

def Event.unlocked : Event :=
  ⟨"unlocked"⟩

/-- What a subscriber finds when it looks for an event. -/
inductive Received
  | event (event : Event)
  | empty
  | lagged (missed : Nat)
  | unsubscribed
deriving DecidableEq, Repr

/-- The events and how far each subscriber has read. -/
structure Notifier where
  /-- The number of events published so far. -/
  published : Nat
  /-- The latest events, the oldest first. -/
  kept : List Event
  /-- The number of events before the next one of each subscriber; none after its
  subscription ended. -/
  subscribers : List (Option Nat)

namespace Notifier

/-- How many events are kept. -/
def capacity : Nat := 16

/-- Nothing published, nobody subscribed. -/
def empty : Notifier :=
  ⟨0, [], []⟩

/-- Adds a subscriber, who receives later events only; yields its number. -/
def subscribe (notifier : Notifier) : Nat × Notifier :=
  (notifier.subscribers.length,
    { notifier with subscribers := notifier.subscribers ++ [some notifier.published] })

/-- Ends a subscription. -/
def unsubscribe (index : Nat) (notifier : Notifier) : Notifier :=
  { notifier with subscribers := notifier.subscribers.set index none }

/-- Publishes an event; nobody has to listen. -/
def publish (event : Event) (notifier : Notifier) : Notifier :=
  let kept := notifier.kept ++ [event]
  { notifier with
    published := notifier.published + 1
    kept := kept.drop (kept.length - capacity) }

/-- The number of the oldest event that is kept. -/
def oldest (notifier : Notifier) : Nat :=
  notifier.published - notifier.kept.length

/-- Lets a subscriber look for its next event. -/
def receive (index : Nat) (notifier : Notifier) : Received × Notifier :=
  let moveTo (next : Nat) : Notifier :=
    { notifier with subscribers := notifier.subscribers.set index (some next) }
  match notifier.subscribers[index]? with
  | some (some next) =>
    if next < notifier.oldest then
      (.lagged (notifier.oldest - next), moveTo notifier.oldest)
    else
      match notifier.kept[next - notifier.oldest]? with
      | some event => (.event event, moveTo (next + 1))
      | none => (.empty, notifier)
  | _ => (.unsubscribed, notifier)

end Notifier

end Keywarden
