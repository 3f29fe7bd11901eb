/-
  ZWaveHost.Proofs.Run.Event — what can happen to an adapter, in any order.

  A moment is an adapter at a time.  An event is one thing that happens to
  it: a chunk comes in, the caller whose turn it is takes a step, a wait for
  the line ends, time passes, the adapter is started or stopped, another
  caller comes or goes, the port breaks or mends.  A run is a list of events
  in whatever order.  Reports are never taken in a run, so the outbox holds
  all of them.

  A start may panic, and then the run is over.  As an event such a start
  leaves everything as it was, so what is reached behind it is reached without
  it too, and no moment comes of a panic.

  Beside what it does to the adapter (`Moment.after`), an event leaves a log
  (`Moment.happenings`): the frames that were heard and the moves of the
  callers.
-/
import ZWaveHost.Adapter.Lifecycle
import ZWaveHost.Port.Scripted
import ZWaveHost.Proofs.Run.Turn

namespace ZWaveHost

/-! ## §1. The log -/

/-- What a run is remembered by. -/
inductive Happening where
  /-- A frame was received; `taken` says whether the request in flight took it
      as its ACK or its response. -/
  | heard (frame : Frame) (taken : Bool)
  /-- The request of an errand was handed to the link. -/
  | transmitted (now : Nat) (e : Errand) (frame : DataFrame)
  /-- An errand's turn ended. -/
  | ended (e : Errand) (result : Except HostError Outcome)

/-- Whether the request in flight takes a frame as its ACK or its response. -/
def Host.takes (h : Host) : Frame → Bool
  | .ack => h.inFlight.any (·.acknowledge.isOk)
  | .data f =>
    f.isValid && f.kind = .response && h.inFlight.any fun s =>
      s.commandId = f.commandId && (h.read? f).any fun (_, command) =>
        (s.updateResponse command).isOk
  | .nak => false
  | .can => false

/-- A frame is accepted and remembered. -/
def Host.acceptLogged {π : Type} [Port π] (frame : Frame) (s : Link π × Host × List Happening) :
    Link π × Host × List Happening :=
  let (l, h) := Host.accept frame (s.1, s.2.1)
  (l, h, s.2.2 ++ [.heard frame (s.2.1.takes frame)])

/-- The frames that are heard in a chunk of bytes. -/
def Adapter.heard {π : Type} [Port π] (a : Adapter π) (bytes : List UInt8) : List Happening :=
  if a.host.lifetime = .gone then []
  else (Link.receive Host.acceptLogged bytes (a.link, a.host, [])).2.2

/-- What a move is remembered by. -/
def Move.happenings (now : Nat) (e : Errand) : Move → List Happening
  | .rest => []
  | .transmit s => [.transmitted now e s.request]
  | .finish result => [.ended e result]

/-- When a request was transmitted. -/
def Happening.transmittedAt? : Happening → Option Nat
  | .transmitted now _ _ => some now
  | _ => none

/-- When the requests in a log were transmitted. -/
def transmissionTimes (log : List Happening) : List Nat := log.filterMap Happening.transmittedAt?

/-- The frames that have been heard, once this has happened too. -/
def Happening.hearing (frames : List Frame) : Happening → List Frame
  | .heard frame _ => frames ++ [frame]
  | .transmitted _ _ _ => []
  | .ended _ _ => frames

/-- The frames in a log that have been heard since the last transmission. -/
def heardSince (log : List Happening) : List Frame := log.foldl Happening.hearing []

theorem transmissionTimes_append (log more : List Happening) :
    transmissionTimes (log ++ more) = transmissionTimes log ++ transmissionTimes more :=
  List.filterMap_append

theorem heardSince_append (log : List Happening) (happening : Happening) :
    heardSince (log ++ [happening]) = happening.hearing (heardSince log) :=
  List.foldl_append

/-- The request that a report says was handed to the link, with its ticket. -/
def Report.transmission? : Report → Option (Nat × DataFrame)
  | .transmitted ticket frame => some (ticket, frame)
  | _ => none

/-- The requests that were handed to the link. -/
def Host.transmissions (h : Host) : List (Nat × DataFrame) :=
  h.outbox.filterMap Report.transmission?

/-! ## §2. Events -/

/-- One thing that happens to an adapter. -/
inductive Event (π : Type) where
  /-- A chunk of bytes comes from the module. -/
  | receive (bytes : List UInt8)
  /-- A caller takes one step, if there is one to take.  If it waits for the
      line, its wait ends first. -/
  | look
  /-- Time passes.  The time for which a caller waits for the line is not
      counted, since its deadline counts from the end of that wait. -/
  | pass (milliseconds : Nat)
  /-- The adapter is started, and nothing comes in before the NAK is sent or
      given up. -/
  | start
  /-- The adapter is started, and its NAK waits for the line. -/
  | beginStart
  /-- The NAK of a start has waited for the line; the start is over. -/
  | endStart
  /-- A caller's wait for the line ends, whether the caller is still there or
      has gone. -/
  | endWait (ticket : Nat)
  | stop
  | send (request : Request)
  | abandon (ticket : Nat)
  | release
  | expire
  /-- The first command in the queue goes to its subscribers. -/
  | dispatch
  | subscribe (kind : CommandKind) (accepts : Command → Bool)
  | unsubscribe (handle : Subscription.Handle)
  | nextSession
  /-- The port changes of its own accord. -/
  | port (change : π → π)

/-- The caller with this ticket does not go away. -/
def Event.Spares {π : Type} (ticket : Nat) : Event π → Prop
  | .abandon t => t ≠ ticket
  | _ => True

/-- An adapter at a time. -/
structure Moment (π : Type) where
  now : Nat
  adapter : Adapter π

namespace Moment

variable {π : Type} [Port π]

/-- The host of the adapter. -/
def host (m : Moment π) : Host := m.adapter.host

/-- The moment with another host. -/
def withHost (m : Moment π) (h : Host) : Moment π :=
  { m with adapter := { m.adapter with host := h } }

/-- The moment with another adapter, if there is one. -/
def withAdapter? (m : Moment π) (a : Option (Adapter π)) : Moment π :=
  { m with adapter := a.getD m.adapter }

/-- The moment after an event. -/
def after (m : Moment π) : Event π → Moment π
  | .receive bytes => { m with adapter := m.adapter.receive bytes }
  | .look => { m with adapter := (m.adapter.step? m.now).getD m.adapter }
  | .pass milliseconds => { m with now := m.now + milliseconds }
  | .start => m.withAdapter? (m.adapter.start.map Prod.snd)
  | .beginStart => m.withAdapter? (m.adapter.beginStart.map Prod.snd)
  | .endStart => m.withAdapter? (m.adapter.endStart?.map Prod.snd)
  | .endWait ticket => { m with adapter := m.adapter.endWait ticket }
  | .stop => { m with adapter := m.adapter.stop.2 }
  | .send request => { m with adapter := (m.adapter.send request).2 }
  | .abandon ticket => { m with adapter := m.adapter.abandon ticket }
  | .release => { m with adapter := m.adapter.release }
  | .expire => { m with adapter := m.adapter.expire }
  | .dispatch => m.withHost m.host.deliverNext
  | .subscribe kind accepts => m.withHost (m.host.subscribe kind accepts).2
  | .unsubscribe handle => m.withHost (m.host.unsubscribe handle).2
  | .nextSession => m.withHost m.host.nextSession.2
  | .port change =>
    { m with adapter := ⟨{ m.adapter.link with port := change m.adapter.link.port }, m.host⟩ }

/-- What an event is remembered by. -/
def happenings (m : Moment π) : Event π → List Happening
  | .receive bytes => m.adapter.heard bytes
  | .look =>
    match m.host.nextMove? m.now with
    | some (e, move) => move.happenings m.now e
    | none => []
  | _ => []

omit [Port π] in
/-- What holds of the adapter and of every answer holds of the adapter after it. -/
theorem withAdapter?_rec {P : Adapter π → Prop} {α : Type} {m : Moment π}
    {answer : Option (α × Adapter π)} (hsame : P m.adapter)
    (hanswered : ∀ result a, answer = some (result, a) → P a) :
    P (m.withAdapter? (answer.map Prod.snd)).adapter := by
  cases answer with
  | none => exact hsame
  | some answered => exact hanswered answered.1 answered.2 rfl

/-- What a look does to the adapter. -/
theorem look_adapter (m : Moment π) : (m.after .look).adapter =
    match m.host.nextMove? m.now with
    | some (e, move) => Adapter.perform m.now e ⟨m.adapter.turnLink, m.host.mover⟩ move
    | none => ⟨m.adapter.turnLink, m.host⟩ :=
  Adapter.getD_step?_eq m.now m.adapter

/-- If nobody takes a step, a look is nothing to the host. -/
theorem look_of_none {m : Moment π} (hnone : m.host.nextMove? m.now = none) :
    (m.after .look).host = m.host ∧ m.happenings .look = [] := by
  constructor
  · show (m.after .look).adapter.host = m.host
    rw [look_adapter, hnone]
  · unfold happenings
    simp only [hnone]

/-- A caller that has nothing to look up for leaves the host alone. -/
theorem look_of_not_ready {m : Moment π} {x : Exchange} (hx : m.host.active = some x)
    (hready : Adapter.isReady m.now m.host x = false) :
    (m.after .look).host = m.host ∧ m.happenings .look = [] := by
  have hnone : m.host.nextMove? m.now = none := by
    unfold Host.nextMove?
    simp only [hx, hready, Bool.false_eq_true, if_false]
  exact look_of_none hnone

/-- A look carries out the next move, and is remembered by it. -/
theorem look_of_nextMove {m : Moment π} {e : Errand} {move : Move}
    (hmove : m.host.nextMove? m.now = some (e, move)) :
    (m.after .look).host = (Adapter.perform m.now e ⟨m.adapter.link, m.host.mover⟩ move).host
      ∧ m.happenings .look = move.happenings m.now e := by
  constructor
  · show (m.after .look).adapter.host = _
    rw [look_adapter, hmove]
    exact Adapter.perform_host m.now e _ _ m.host.mover move
  · unfold happenings
    simp only [hmove]

/-- **A caller that looks up** makes its move. -/
theorem look_of_ready {m : Moment π} {x : Exchange} (hx : m.host.active = some x)
    (hready : Adapter.isReady m.now m.host x = true) :
    (m.after .look).host = (Adapter.perform m.now x.errand ⟨m.adapter.link, m.host.attend⟩
        (m.host.move m.now x)).host
      ∧ m.happenings .look = (m.host.move m.now x).happenings m.now x.errand := by
  have hmove : m.host.nextMove? m.now = some (x.errand, m.host.move m.now x) := by
    unfold Host.nextMove?
    simp only [hx, hready, if_true]
  have hmover : m.host.mover = m.host.attend := by
    unfold Host.mover
    simp only [hx]
  rw [← hmover]
  exact look_of_nextMove hmove

/-- **An errand's turn begins** with its first attempt. -/
theorem look_of_waiting {m : Moment π} {e : Errand} {rest : List Errand}
    (hactive : m.host.active = none) (hwaiting : m.host.waiting = e :: rest) :
    (m.after .look).host
        = (Adapter.perform m.now e ⟨m.adapter.link, Adapter.leaveLine m.host rest⟩
          (e.fresh m.host.config.maxRetries).attemptMove).host
      ∧ m.happenings .look
        = (e.fresh m.host.config.maxRetries).attemptMove.happenings m.now e := by
  have hmove : m.host.nextMove? m.now
      = some (e, (e.fresh m.host.config.maxRetries).attemptMove) := by
    unfold Host.nextMove?
    simp only [hactive, hwaiting]
  have hmover : m.host.mover = Adapter.leaveLine m.host rest := by
    unfold Host.mover
    simp only [hactive, hwaiting]
  rw [← hmover]
  exact look_of_nextMove hmove

/-! ## §3. Schedules -/

/-- The moments of a schedule of events, one after the other. -/
def along (schedule : Nat → Event π) (m : Moment π) : Nat → Moment π
  | 0 => m
  | n + 1 => (along schedule m n).after (schedule n)

/-- At any time to come, a caller still takes a step. -/
def Fair (schedule : Nat → Event π) (m : Moment π) : Prop :=
  ∀ time, ∃ n, schedule n = .look ∧ time ≤ (m.along schedule n).now

end Moment

/-! ## §4. A first moment -/

theorem Config.valid_default : Config.default.Valid := ⟨by decide, by decide, by decide⟩

/-- The transmission of two bytes to node 5. -/
def Errand.toNodeFive : Errand where
  ticket := 0
  request := ⟨9, .request, 0x13, [5, 2, 0x20, 0x01, 0x25, 7], 0xE1⟩
  flow := .responseAndCallback
  recovers := none

/-- A started adapter with the default settings and the standard registry, on
    an open port, and this errand in line. -/
def Moment.toNodeFive : Moment ScriptedPort where
  now := 0
  adapter := ⟨.new { isOpen := true } Config.default.timeout,
    { Host.new .default Config.valid_default .standard with
      running := true
      waiting := [Errand.toNodeFive] }⟩

example : DataFrame.build .request 0x13 [5, 2, 0x20, 0x01, 0x25, 7]
    = .ok Errand.toNodeFive.request := rfl

end ZWaveHost
