/-
  ZWaveHost.Adapter.Lifecycle — an adapter from its making to its end.

  An adapter is made from valid settings, started, used by any number of
  callers, stopped and perhaps started again.  A start opens the port and
  sends a NAK; if something holds the line, frames may come in between
  (`beginStart`, `endStart?`).  Time passes only when the adapter is told so;
  between two moments `settle` does everything that can be done.
-/
import ZWaveHost.Adapter.Exchange
import ZWaveHost.Port.Serial

namespace ZWaveHost

namespace Adapter

variable {π : Type}

/-! ## §1. Making, starting and stopping -/

/-- An adapter for a port, with its own registry. -/
def create (port : π) (config : Config) (registry : Registry) : Except HostError (Adapter π) :=
  match hc : config.validate with
  | .error fault => .error (.config fault.message)
  | .ok () =>
    .ok ⟨.new port config.timeout, .new config (Config.valid_of_validate hc) registry⟩

/-- An adapter for the serial port of a machine that the settings name. -/
def serial {σ : Type} [SerialSystem σ] (machine : σ) (config : Config) :
    Except HostError (Adapter (SerialPort σ)) :=
  create (.closed config.portName config.baudRate machine) config .standard

/-- The longest queue there can be. -/
def maxQueueCapacity : Nat := 0x1FFFFFFFFFFFFFFF

/-- Nobody takes commands for the subscribers any more; those that wait are
    still handed over. -/
def closeQueue (h : Host) : Host := { h.deliverAll with queue := none }

/-- The first half of a start: it makes the queue and opens the port.  The
    answer is true if the NAK is to follow; else the start is over, and the
    adapter is not running.  There is no answer if no queue of the capacity
    asked for can be made: that is a panic, and the run is over. -/
def openUp [Port π] (a : Adapter π) : Option (Except HostError Bool × Adapter π) :=
  if a.host.running then some (.error .alreadyRunning, a)
  else if a.host.config.dispatchCapacity.toNat > maxQueueCapacity then none
  else
    match Port.openWithin a.host.config.openTimeout a.link.port with
    | (.ok true, port) =>
      some (.ok true,
        ⟨{ a.link with port := port }, { a.host with running := true, queue := some [] }⟩)
    | (result, port) =>
      some (result,
        ⟨{ a.link with port := port }, { a.host with running := false, queue := none }⟩)

/-- The second half of a start, once its NAK has been sent or given up.  If it
    has been given up the adapter is not running, but the port stays open. -/
def announce (h : Host) (sent : Except HostError Unit × Link π) :
    Except HostError Bool × Adapter π :=
  match sent with
  | (.ok (), link) => (.ok true, ⟨link, h⟩)
  | (.error e, link) => (.error e, ⟨link, { closeQueue h with running := false }⟩)

/-- A start that nothing interrupts: its NAK is sent at once, or given up. -/
def start [Port π] (a : Adapter π) : Option (Except HostError Bool × Adapter π) :=
  match a.openUp with
  | some (.ok true, opened) => some (announce opened.host (opened.link.send .nak))
  | answer => answer

/-- A start whose NAK is to wait for the line. -/
def beginStart [Port π] (a : Adapter π) : Option (Except HostError Bool × Adapter π) :=
  match a.openUp with
  | some (.ok true, opened) =>
    some (.ok true, { opened with link := opened.link.enqueue .starter .nak })
  | answer => answer

/-- A start whose NAK has waited for the line is over; none if there is no such
    start. -/
def endStart? [Port π] (a : Adapter π) : Option (Except HostError Bool × Adapter π) :=
  (a.link.endWait? .starter).map (announce a.host)

/-- The request in flight has failed. -/
def failInFlight (h : Host) : Host := { h with inFlight := h.inFlight.map Sequence.fail }

/-- Closes the port.  Commands that wait are still handed to the subscribers,
    and the request in flight fails. -/
def stop [Port π] (a : Adapter π) : Except HostError Bool × Adapter π :=
  if a.host.running then
    let (closed, link) := a.link.closePort
    (closed, ⟨link, failInFlight (closeQueue { a.host with running := false })⟩)
  else (.ok false, a)

/-! ## §2. Callers -/

/-- The frame and the flow of a request, if it can be sent.  A payload that is too long
    is found first, then that the adapter is not running, then that the
    command is not registered. -/
def examine (h : Host) (r : Request) : Except HostError (DataFrame × Flow) :=
  match r.toFrame with
  | .error e => .error (.frame e)
  | .ok frame =>
    if !h.running then .error .notRunning
    else
      match h.registry.find? frame.commandId with
      | none => .error (.unregisteredCommand frame.commandId)
      | some entry => .ok (frame, entry.flow)

/-- A caller wants a request sent.  The result is reported under the ticket. -/
def send (a : Adapter π) (r : Request) : Nat × Adapter π :=
  let ticket := a.host.nextTicket
  let host := { a.host with nextTicket := ticket + 1 }
  let host := match examine a.host r with
    | .error e => host.report (.finished ticket (.error e))
    | .ok (frame, flow) => { host with waiting := host.waiting ++ [⟨ticket, frame, flow, none⟩] }
  (ticket, { a with host := host })

/-- A caller goes away wherever it waits.  Nothing is reported, and its
    request stays in flight until the next one takes its place. -/
def abandon (a : Adapter π) (ticket : Nat) : Adapter π :=
  { a with host := { a.host with
      active := a.host.active.filter (·.errand.ticket ≠ ticket)
      waiting := a.host.waiting.filter (·.ticket ≠ ticket) } }

/-- The owner goes away. -/
def release (a : Adapter π) : Adapter π :=
  if a.host.lifetime = .owned then { a with host := { a.host with lifetime := .released } } else a

/-! ## §3. Time -/

/-- Once the owner and every caller have gone, the adapter goes too; if it is
    running, it closes the port. -/
def expire [Port π] (a : Adapter π) : Adapter π :=
  if a.host.lifetime = .released ∧ a.host.active.isNone ∧ a.host.waiting.isEmpty then
    let host := { a.host with lifetime := .gone }
    if host.running then
      ⟨a.link.closePort.2, closeQueue { host with running := false }⟩
    else ⟨a.link, host⟩
  else a

/-- Does everything that can be done at one time. -/
def settle [Port π] (now : Nat) (a : Adapter π) : Adapter π :=
  expire (runSteps now { a with host := a.host.deliverAll })

/-- Lets time pass, stopping at each deadline on the way. -/
def runUntil [Port π] (now target : Nat) (a : Adapter π) : Adapter π :=
  match a.host.active with
  | some x =>
    if _h : now < x.deadline ∧ x.deadline ≤ target then
      runUntil x.deadline target (settle x.deadline a)
    else settle target a
  | none => settle target a
termination_by target - now

/-- Does everything that can be done now, and then lets time pass. -/
def advance [Port π] (now target : Nat) (a : Adapter π) : Adapter π :=
  runUntil now target (settle now a)

end Adapter

end ZWaveHost
