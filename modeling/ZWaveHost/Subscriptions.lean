/-
  ZWaveHost.Subscriptions — who wants to hear of which commands.

  A subscription names a kind of command and may accept only some of them.
  A command goes to the subscriptions that are there when its dispatch
  begins, in their order; whatever a handler changes counts from the next
  dispatch on.
-/
import ZWaveHost.Command

namespace ZWaveHost

/-- What names a subscription. -/
structure Subscription.Handle where
  id : UInt64
  deriving DecidableEq, Inhabited

/-- A wish to hear of commands of a kind, if they are accepted. -/
structure Subscription where
  handle : Subscription.Handle
  kind : CommandKind
  accepts : Command → Bool

/-- The subscriptions, in the order in which they were made. -/
structure Subscriptions where
  nextId : UInt64
  entries : List Subscription

namespace Subscriptions

/-- No subscriptions. -/
def empty : Subscriptions := ⟨0, []⟩

/-- How many subscriptions there are. -/
def size (s : Subscriptions) : Nat := s.entries.length

/-- Adds a subscription. -/
def subscribe (s : Subscriptions) (kind : CommandKind) (accepts : Command → Bool) :
    Subscription.Handle × Subscriptions :=
  (⟨s.nextId⟩, ⟨s.nextId + 1, s.entries ++ [⟨⟨s.nextId⟩, kind, accepts⟩]⟩)

/-- Removes a subscription; says whether it was there. -/
def unsubscribe (s : Subscriptions) (handle : Subscription.Handle) : Bool × Subscriptions :=
  let kept := s.entries.filter (·.handle ≠ handle)
  (kept.length ≠ s.entries.length, { s with entries := kept })

/-- The subscriptions to the kind of a command. -/
def ofKind (s : Subscriptions) (c : Command) : List Subscription :=
  s.entries.filter (·.kind = c.kind)

/-- The subscriptions whose handlers run for a command, in order. -/
def recipients (s : Subscriptions) (c : Command) : List Subscription.Handle :=
  ((s.ofKind c).filter (·.accepts c)).map Subscription.handle

/-- Runs the handlers for a command, one after the other.  A handler sees
    and may change the subscriptions and a state that all handlers share.
    The number is that of the subscriptions to the command's kind, whether
    they accept it or not. -/
def dispatch {σ : Type} (handler : Subscription.Handle → Subscriptions × σ → Subscriptions × σ)
    (c : Command) (s : Subscriptions × σ) : Nat × (Subscriptions × σ) :=
  ((s.1.ofKind c).length, (s.1.recipients c).foldl (fun s handle => handler handle s) s)

end Subscriptions

end ZWaveHost
