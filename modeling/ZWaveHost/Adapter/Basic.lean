/-
  ZWaveHost.Adapter.Basic — the state of a host.

  A host keeps the request in flight, the callers that wait for their turn,
  the commands that wait for the subscribers, and a box of reports on what
  has happened.  An adapter is a host on a link.
-/
import ZWaveHost.Config
import ZWaveHost.Link
import ZWaveHost.Outcome
import ZWaveHost.Registry.Standard
import ZWaveHost.Request
import ZWaveHost.Subscriptions

namespace ZWaveHost

/-! ## §1. Exchanges -/

/-- A request that a caller wants sent.  `recovers` holds the outcome of the
    failed request, if this one is the Soft Reset that follows it. -/
structure Errand where
  ticket : Nat
  request : DataFrame
  flow : Flow
  recovers : Option Outcome
  deriving DecidableEq

/-- The errand whose turn it is, waiting for an answer to its last
    transmission: rejections count only beyond those seen when it was made,
    and the wait ends at the deadline. -/
structure Exchange where
  errand : Errand
  rejectionsSeen : UInt64
  deadline : Nat
  deriving DecidableEq

/-- What has happened. -/
inductive Report where
  /-- A request was handed to the link.  What becomes of it there is not
      reported. -/
  | transmitted (ticket : Nat) (frame : DataFrame)
  /-- A command was handed to a subscriber. -/
  | delivered (handle : Subscription.Handle) (command : Command)
  /-- A caller has its result. -/
  | finished (ticket : Nat) (result : Except HostError Outcome)

/-! ## §2. Hosts -/

/-- Who still holds an adapter. -/
inductive Lifetime where
  /-- Its owner. -/
  | owned
  /-- Only the callers whose requests are on their way. -/
  | released
  /-- Nobody. -/
  | gone
  deriving DecidableEq, Inhabited

/-- Everything of an adapter but its link. -/
structure Host where
  config : Config
  valid : config.Valid
  registry : Registry
  running : Bool
  /-- The request in flight.  It stays when its caller goes away. -/
  inFlight : Option Sequence
  /-- How many NAK and CAN frames have answered a request that waited for its ACK. -/
  rejections : UInt64
  /-- Whether a rejection has not been noticed yet. -/
  permit : Bool
  /-- The exchange whose turn it is. -/
  active : Option Exchange
  /-- The errands that wait for their turn, the first first. -/
  waiting : List Errand
  /-- The commands that wait for the subscribers; none if nobody takes them. -/
  queue : Option (List Command)
  subscriptions : Subscriptions
  /-- The last session id handed out, 0 before the first. -/
  lastSession : UInt8
  nextTicket : Nat
  lifetime : Lifetime
  /-- What has happened since the reports were last taken. -/
  outbox : List Report

/-- A host on a link. -/
structure Adapter (π : Type) where
  link : Link π
  host : Host

namespace Host

/-- A host that has not been started. -/
def new (config : Config) (valid : config.Valid) (registry : Registry) : Host where
  config := config
  valid := valid
  registry := registry
  running := false
  inFlight := none
  rejections := 0
  permit := false
  active := none
  waiting := []
  queue := none
  subscriptions := .empty
  lastSession := 0
  nextTicket := 0
  lifetime := .owned
  outbox := []

/-- Puts a report into the box. -/
def report (h : Host) (r : Report) : Host := { h with outbox := h.outbox ++ [r] }

/-- The reports since they were last taken. -/
def takeReports (h : Host) : List Report × Host := (h.outbox, { h with outbox := [] })

/-- The next session id: from 1 to 255 and round again. -/
def nextSession (h : Host) : UInt8 × Host :=
  let id := if h.lastSession = 255 then 1 else h.lastSession + 1
  (id, { h with lastSession := id })

/-! ## §3. Subscribers -/

/-- Adds a subscription. -/
def subscribe (h : Host) (kind : CommandKind) (accepts : Command → Bool) :
    Subscription.Handle × Host :=
  let (handle, subscriptions) := h.subscriptions.subscribe kind accepts
  (handle, { h with subscriptions := subscriptions })

/-- Removes a subscription; says whether it was there. -/
def unsubscribe (h : Host) (handle : Subscription.Handle) : Bool × Host :=
  let (removed, subscriptions) := h.subscriptions.unsubscribe handle
  (removed, { h with subscriptions := subscriptions })

/-- Hands a command to its subscribers. -/
def deliver (h : Host) (c : Command) : Host :=
  let (_, subscriptions, outbox) :=
    Subscriptions.dispatch (fun handle (subscriptions, outbox) =>
      (subscriptions, outbox ++ [.delivered handle c])) c (h.subscriptions, h.outbox)
  { h with subscriptions := subscriptions, outbox := outbox }

/-- Hands the first command in the queue to its subscribers. -/
def deliverNext (h : Host) : Host :=
  match h.queue with
  | some (c :: rest) => ({ h with queue := some rest } : Host).deliver c
  | _ => h

/-- Hands every command in the queue to its subscribers. -/
def deliverAll (h : Host) : Host :=
  match h.queue with
  | some commands => commands.foldl deliver { h with queue := some [] }
  | none => h

end Host

end ZWaveHost
