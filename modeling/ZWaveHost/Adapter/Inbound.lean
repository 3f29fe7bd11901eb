/-
  ZWaveHost.Adapter.Inbound — what the host makes of received frames.

  A data frame is answered with ACK or NAK by its checksum alone.  A good
  one that can be read goes to the subscribers' queue and, if it belongs to
  the request in flight, to that request.  Control frames concern only a
  request that waits for its ACK.
-/
import ZWaveHost.Adapter.Basic

namespace ZWaveHost

namespace Host

/-- An ACK: it counts for a request that waits for one. -/
def acknowledge (h : Host) : Host :=
  match h.inFlight with
  | none => h
  | some s =>
    if s.state = .waitingForAck then
      match s.acknowledge with
      | .ok s => { h with inFlight := some s }
      | .error _ => { h with inFlight := some s.fail }
    else h

/-- Whether the request in flight waits for its ACK. -/
def waitsForAck (h : Host) : Bool :=
  h.inFlight.any (·.state = .waitingForAck)

/-- A NAK or CAN: it counts, where rejections matter at all, for a request
    that waits for its ACK. -/
def reject (h : Host) : Host :=
  if h.config.retransmitOnNak && h.waitsForAck then
    { h with rejections := h.rejections + 1, permit := true }
  else h

/-- Puts a command into the subscribers' queue; a full queue drops it. -/
def enqueue [Port π] (command : Command) (s : Link π × Host) : Link π × Host :=
  let (l, h) := s
  match h.queue with
  | none => (l, h)
  | some commands =>
    if commands.length < h.config.dispatchCapacity.toNat then
      (l, { h with queue := some (commands ++ [command]) })
    else ({ l with received := l.received.recordDropped }, h)

/-- Hands a command to the request in flight, if it is the answer to it. -/
def route (h : Host) (kind : FrameKind) (commandId : UInt8) (flow : Flow) (command : Command) :
    Host :=
  match h.inFlight with
  | none => h
  | some s =>
    if s.commandId ≠ commandId || s.isTerminal then h
    else
      match kind with
      | .response =>
        match s.updateResponse command with
        | .ok s => { h with inFlight := some s }
        | .error _ => { h with inFlight := some s.fail }
      | .request =>
        if flow.hasCallback then
          match s.updateCallback command with
          | .ok s => { h with inFlight := some s }
          | .error _ => { h with inFlight := some s.fail }
        else h

/-- What can be read in a good data frame. -/
def read? (h : Host) (frame : DataFrame) : Option (Entry × Command) := do
  let entry ← h.registry.find? frame.commandId
  let codec ← entry.codecFor? frame.kind
  match ← codec.decode? (.ofBytes frame.payload) with
  | (.ok command, _) => return (entry, command)
  | (.error _, _) => none

/-- A data frame. -/
def acceptData [Port π] (frame : DataFrame) (s : Link π × Host) : Link π × Host :=
  let (l, h) := s
  if frame.isValid then
    let (_, l) := l.send .ack
    match h.read? frame with
    | none => (l, h)
    | some (entry, command) =>
      let (l, h) := enqueue command (l, h)
      (l, h.route frame.kind frame.commandId entry.flow command)
  else ((l.send .nak).2, h)

/-- A frame. -/
def accept [Port π] (frame : Frame) (s : Link π × Host) : Link π × Host :=
  match frame with
  | .ack => (s.1, s.2.acknowledge)
  | .nak => (s.1, s.2.reject)
  | .can => (s.1, s.2.reject)
  | .data frame => acceptData frame s

end Host

/-- A chunk of bytes from the module.  Nobody listens once the adapter is gone. -/
def Adapter.receive [Port π] (a : Adapter π) (bytes : List UInt8) : Adapter π :=
  if a.host.lifetime = .gone then a
  else
    let (link, host) := Link.receive Host.accept bytes (a.link, a.host)
    { a with link := link, host := host }

end ZWaveHost
