/-
  ZWaveHost.Proofs.Run.Lifecycle — what a start and a stop leave behind.

  A start takes several steps, and any of them may fail; a stop has to clean
  up whatever was under way.  Each undoes what it has done in the host.  On
  the link it is not so: a start that cannot send its NAK leaves the port
  open, and a stop that cannot close the port leaves half a frame behind that
  holds the line.

  Main facts: nothing but a start makes an adapter run (`Moment.runs_after`),
  and one that is not running has no queue (`Reachable.queue_eq_none`); a
  failed start is undone but for the port (`failed_start_leaves_port_open`);
  and a stop is complete exactly if the port could be closed or no frame was
  being received (`stop_frees_line_iff_closed`).
-/
import ZWaveHost.Proofs.Link.Opening
import ZWaveHost.Proofs.Run.Calls
import ZWaveHost.Proofs.Run.Session

namespace ZWaveHost

open Adapter

variable {π : Type} [Port π]

/-! ## §1. Adapters that are not running -/

/-- No frame makes a queue. -/
theorem Host.accept_queue_none (frame : Frame) (l : Link π) {h : Host} (hnone : h.queue = none) :
    (Host.accept frame (l, h)).2.queue = none := by
  cases frame with
  | ack =>
    obtain ⟨_, heq⟩ := h.acknowledge_eq
    show h.acknowledge.queue = none
    rw [heq]
    exact hnone
  | nak => exact (congrArg Host.queue h.reject_eq).trans hnone
  | can => exact (congrArg Host.queue h.reject_eq).trans hnone
  | data f =>
    show (Host.acceptData f (l, h)).2.queue = none
    unfold Host.acceptData
    dsimp only
    split
    · cases h.read? f with
      | none => exact hnone
      | some found =>
        obtain ⟨entry, command⟩ := found
        have hunqueued : Host.enqueue command ((l.send .ack).2, h) = ((l.send .ack).2, h) := by
          unfold Host.enqueue
          simp only [hnone]
        obtain ⟨_, hroute⟩ := h.route_eq f.kind f.commandId entry.flow command
        dsimp only
        rw [hunqueued, hroute]
        exact hnone
    · exact hnone

namespace Adapter

variable {a b : Adapter π} {result : Except HostError Bool}
  (ha : a.host.running = false → a.host.queue = none)

include ha

/-- A start makes no queue for an adapter that is not to run. -/
theorem openUp_queue_eq_none (hopened : a.openUp = some (result, b))
    (hstopped : b.host.running = false) : b.host.queue = none := by
  unfold openUp at hopened
  split at hopened
  · cases hopened
    exact ha hstopped
  split at hopened
  · cases hopened
  split at hopened
  · cases hopened
    cases hstopped
  · cases hopened
    rfl

theorem start_queue_eq_none (hstarted : a.start = some (result, b))
    (hstopped : b.host.running = false) : b.host.queue = none := by
  rcases a.start_cases hstarted with hopened | ⟨opened, hopened, hannounced⟩
  · exact openUp_queue_eq_none ha hopened hstopped
  · have hrunning := ((a.openUp_host_eq hopened).2 rfl).1
    rcases host_of_announce hannounced with hhost | hhost
    · rw [hhost, hrunning] at hstopped
      cases hstopped
    · rw [hhost]
      rfl

theorem beginStart_queue_eq_none (hbegun : a.beginStart = some (result, b))
    (hstopped : b.host.running = false) : b.host.queue = none := by
  rcases a.beginStart_cases hbegun with ⟨hopened, -⟩ | ⟨opened, hopened, rfl⟩
  · exact openUp_queue_eq_none ha hopened hstopped
  · have hrunning := ((a.openUp_host_eq hopened).2 rfl).1
    cases hrunning.symm.trans hstopped

end Adapter

/-- A stop of an adapter that is running closes its port, and ends its queue. -/
theorem Adapter.stop_of_running {a : Adapter π} (hrunning : a.host.running = true) :
    a.stop.1 = (Port.close a.link.port).1 ∧ a.stop.2.link = a.link.closePort.2
      ∧ a.stop.2.host.running = false ∧ a.stop.2.host.queue = none
      ∧ a.stop.2.host.config = a.host.config ∧ a.stop.2.host.registry = a.host.registry
      ∧ a.stop.2.host.lifetime = a.host.lifetime := by
  obtain ⟨_, _, _, heq⟩ := Adapter.closeQueue_eq { a.host with running := false }
  unfold Adapter.stop
  rw [if_pos hrunning]
  refine ⟨a.link.closePort_result, rfl, ?_⟩
  show (Adapter.closeQueue { a.host with running := false }).running = false
    ∧ (Adapter.closeQueue { a.host with running := false }).queue = none
    ∧ (Adapter.closeQueue { a.host with running := false }).config = a.host.config
    ∧ (Adapter.closeQueue { a.host with running := false }).registry = a.host.registry
    ∧ (Adapter.closeQueue { a.host with running := false }).lifetime = a.host.lifetime
  have hnone : (Adapter.closeQueue { a.host with running := false }).queue = none := rfl
  refine ⟨?_, hnone, ?_⟩
  · rw [heq]
  · rw [heq]
    exact ⟨rfl, rfl, rfl⟩

/-- A stop of a stopped adapter does nothing. -/
theorem Moment.stop_of_stopped {m : Moment π} (hstopped : m.host.running = false) :
    m.after .stop = m := by
  have hnot : ¬ m.adapter.host.running = true := Bool.eq_false_iff.mp hstopped
  show ({ m with adapter := m.adapter.stop.2 } : Moment π) = m
  unfold Adapter.stop
  rw [if_neg hnot]

namespace Moment

variable {m : Moment π}

/-- A step of a caller neither starts nor stops the adapter. -/
theorem running_look (m : Moment π) : (m.after .look).host.running = m.host.running
    ∧ (m.after .look).host.queue = m.host.queue := by
  obtain ⟨_, _, hmover⟩ := m.host.mover_eq
  cases hmove : m.host.nextMove? m.now with
  | none =>
    rw [(look_of_none hmove).1]
    exact ⟨rfl, rfl⟩
  | some next =>
    obtain ⟨e, move⟩ := next
    rw [(look_of_nextMove hmove).1]
    cases move with
    | rest =>
      show m.host.mover.running = _ ∧ m.host.mover.queue = _
      rw [hmover]
      exact ⟨rfl, rfl⟩
    | transmit s =>
      show m.host.mover.running = _ ∧ m.host.mover.queue = _
      rw [hmover]
      exact ⟨rfl, rfl⟩
    | finish result =>
      obtain ⟨_, _, hconclude⟩ := conclude_eq m.host.left e result
      show (conclude m.host.left e result).running = _ ∧ (conclude m.host.left e result).queue = _
      rw [hconclude]
      show m.host.mover.running = _ ∧ m.host.mover.queue = _
      rw [hmover]
      exact ⟨rfl, rfl⟩

/-- **Only a start makes an adapter run.**  Whatever else happens leaves it
    running or not, and makes no queue; or it ends both. -/
theorem runs_after (m : Moment π) {event : Event π} (hstart : event ≠ .start)
    (hbegin : event ≠ .beginStart) :
    (m.after event).host.running = m.host.running
        ∧ (m.host.queue = none → (m.after event).host.queue = none)
      ∨ (m.after event).host.running = false ∧ (m.after event).host.queue = none := by
  cases event with
  | start => exact absurd rfl hstart
  | beginStart => exact absurd rfl hbegin
  | receive bytes =>
    obtain ⟨_, _, _, _, heq⟩ := m.adapter.receive_host_eq bytes
    refine .inl ⟨?_, fun hnone => ?_⟩
    · show (m.adapter.receive bytes).host.running = m.adapter.host.running
      rw [heq]
    · show (m.adapter.receive bytes).host.queue = none
      unfold Adapter.receive
      split
      · exact hnone
      · exact Link.receive_preserves (P := fun h : Host => h.queue = none)
          (fun frame l _ hnone => Host.accept_queue_none frame l hnone) bytes _ _ hnone
  | look =>
    obtain ⟨hrunning, hqueue⟩ := m.running_look
    exact .inl ⟨hrunning, hqueue.trans⟩
  | endStart =>
    rcases m.endStart_host_eq with heq | heq
    · rw [heq]
      exact .inl ⟨rfl, id⟩
    · rw [heq]
      exact .inr ⟨rfl, rfl⟩
  | stop =>
    by_cases hrunning : m.adapter.host.running = true
    · obtain ⟨_, _, hends, hnone, _⟩ := Adapter.stop_of_running hrunning
      exact .inr ⟨hends, hnone⟩
    · rw [m.stop_of_stopped (Bool.eq_false_iff.mpr hrunning)]
      exact .inl ⟨rfl, id⟩
  | expire =>
    show m.adapter.expire.host.running = m.adapter.host.running
        ∧ (m.adapter.host.queue = none → m.adapter.expire.host.queue = none)
      ∨ m.adapter.expire.host.running = false ∧ m.adapter.expire.host.queue = none
    unfold Adapter.expire
    split
    · dsimp only
      split
      · obtain ⟨_, _, _, heq⟩ :=
          closeQueue_eq { m.adapter.host with lifetime := .gone, running := false }
        exact .inr ⟨congrArg Host.running heq, rfl⟩
      · exact .inl ⟨rfl, id⟩
    · exact .inl ⟨rfl, id⟩
  | send request =>
    refine .inl ?_
    cases hexamined : examine m.host request with
    | error error => rw [send_of_error hexamined]; exact ⟨rfl, id⟩
    | ok sendable => rw [send_of_ok hexamined]; exact ⟨rfl, id⟩
  | release =>
    refine .inl ?_
    show m.adapter.release.host.running = m.adapter.host.running
      ∧ (m.adapter.host.queue = none → m.adapter.release.host.queue = none)
    unfold Adapter.release
    split <;> exact ⟨rfl, id⟩
  | dispatch =>
    refine .inl ⟨?_, fun hnone => ?_⟩
    · obtain ⟨_, _, _, heq⟩ := m.host.deliverNext_eq
      show m.host.deliverNext.running = m.host.running
      rw [heq]
    · have hnone : m.host.queue = none := hnone
      show m.host.deliverNext.queue = none
      unfold Host.deliverNext
      rw [hnone]
      exact hnone
  | _ => exact .inl ⟨rfl, id⟩

/-- **An adapter that is not running has no queue.** -/
theorem queue_eq_none_after (hm : m.host.running = false → m.host.queue = none) (event : Event π)
    (hstopped : (m.after event).host.running = false) : (m.after event).host.queue = none := by
  by_cases hstart : event = .start
  · obtain rfl := hstart
    exact withAdapter?_rec (P := fun a => a.host.running = false → a.host.queue = none) hm
      (fun _ _ => Adapter.start_queue_eq_none hm) hstopped
  by_cases hbegin : event = .beginStart
  · obtain rfl := hbegin
    exact withAdapter?_rec (P := fun a => a.host.running = false → a.host.queue = none) hm
      (fun _ _ => Adapter.beginStart_queue_eq_none hm) hstopped
  rcases m.runs_after hstart hbegin with ⟨hrunning, hkeeps⟩ | ⟨-, hnone⟩
  · exact hkeeps (hm (hrunning.symm.trans hstopped))
  · exact hnone

theorem Reachable.queue_eq_none (hm : m.Reachable) (hstopped : m.host.running = false) :
    m.host.queue = none :=
  hm.induction (P := fun m => m.host.running = false → m.host.queue = none)
    (fun _ _ _ _ _ _ => rfl) (fun _ event ih => queue_eq_none_after ih event) hstopped

end Moment

/-! ## §2. Starts that fail -/

section

variable {m : Moment π} (hm : m.Reachable) (hstopped : m.host.running = false)
  {result : Except HostError Bool} (hanswered : m.adapter.start.map Prod.fst = some result)
  (hfails : result ≠ .ok true)

include hm hstopped hanswered hfails

/-- A start that fails leaves the link that could not be opened, and the host
    as it was. -/
theorem Moment.start_of_fails :
    result = (m.adapter.link.openPort m.host.config.openTimeout).1
      ∧ m.after .start = { m with
        adapter := ⟨(m.adapter.link.openPort m.host.config.openTimeout).2, m.host⟩ } := by
  have hnone := hm.queue_eq_none hstopped
  have hopened : m.adapter.openUp.isSome = true := by
    rw [← Adapter.isSome_start, ← Option.isSome_map, hanswered]
    rfl
  obtain ⟨hstarts, hfailed⟩ :=
    Adapter.start_of_stopped hstopped (Adapter.capacity_of_openUp hstopped hopened)
  have hno : (m.adapter.link.openPort m.adapter.host.config.openTimeout).1 ≠ .ok true := by
    intro hok
    rw [hstarts hok] at hanswered
    cases hanswered
    exact hfails rfl
  have hstart := hfailed hno
  rw [hstart] at hanswered
  cases hanswered
  -- not running and without a queue is what it was before
  have hhost : ({ m.host with running := false, queue := none } : Host) = m.host := by
    rw [← hstopped, ← hnone]
  refine ⟨rfl, ?_⟩
  show m.withAdapter? (m.adapter.start.map Prod.snd) = _
  rw [hstart]
  exact congrArg (fun h => (⟨m.now, ⟨_, h⟩⟩ : Moment π)) hhost

/-- **A start that fails is undone, but for the port.**  The host is as it was:
    not running, with no queue, and a stop has nothing to do.  If the port has
    not opened, its answer is passed on and the link is as it was.  If it has
    opened and only the NAK could not be sent, it stays open, with an idle link
    on it.  Either way, whatever bytes it hands over are taken in as ever. -/
theorem failed_start_leaves_port_open (o : Openness π) :
    let l := m.adapter.link
    let opened := Port.openWithin m.host.config.openTimeout l.port
    let failed := m.after .start
    let d := failed.adapter.link.decoder
    failed.host = m.host ∧ failed.host.running = false ∧ failed.host.queue = none
    ∧ failed.adapter.stop = (.ok false, failed.adapter)
    ∧ (o.isOpen failed.adapter.link.port = true ↔ o.isOpen l.port = true ∨ opened.1 = .ok true)
    ∧ (opened.1 ≠ .ok true →
      result = opened.1 ∧ failed.adapter.link = { l with port := opened.2 })
    ∧ (opened.1 = .ok true →
      (∃ text, result = .error (.transport text)) ∧ failed.adapter.link.Idle)
    ∧ (m.host.lifetime ≠ .gone → ∀ bytes,
      (failed.after (.receive bytes)).adapter.link.decoder = (d.feed (d.kept bytes)).2) := by
  intro l opened failed d
  have hnone := hm.queue_eq_none hstopped
  obtain ⟨hresult, hafter⟩ := Moment.start_of_fails hm hstopped hanswered hfails
  have hafter : failed = _ := hafter
  have hhost : failed.host = m.host := by rw [hafter]; rfl
  have hlink : failed.adapter.link = (l.openPort m.host.config.openTimeout).2 := by rw [hafter]
  have hidle : failed.adapter.host.running = false := (congrArg Host.running hhost).trans hstopped
  have hcases := l.openPort_cases m.host.config.openTimeout
  refine ⟨hhost, hidle, (congrArg Host.queue hhost).trans hnone, ?_, ?_, ?_, ?_, ?_⟩
  · unfold Adapter.stop
    rw [if_neg (Bool.eq_false_iff.mp hidle)]
  · rw [hlink]
    exact l.openPort_isOpen o m.host.config.openTimeout
  · intro hunopened
    rw [hresult, hlink]
    generalize l.openPort m.host.config.openTimeout = answered at hcases ⊢
    cases hcases with
    | unopened _ => exact ⟨rfl, rfl⟩
    | announced hopened _ => exact absurd hopened hunopened
    | unannounced hopened _ => exact absurd hopened hunopened
  · intro hopened
    rw [hresult] at hfails ⊢
    rw [hlink]
    refine ⟨?_, hm.balanced.openPort_idle hopened⟩
    generalize l.openPort m.host.config.openTimeout = answered at hcases hfails ⊢
    cases hcases with
    | unopened hunopened => exact absurd hopened hunopened
    | announced _ _ => exact absurd rfl hfails
    | unannounced _ hsent =>
      obtain ⟨text, rfl⟩ := Link.send_error hsent
      exact ⟨text, rfl⟩
  · intro hlives bytes
    have hlives : failed.adapter.host.lifetime ≠ .gone := by
      show failed.host.lifetime ≠ .gone
      rw [hhost]
      exact hlives
    exact Adapter.receive_decoder (hm.after .start).balanced hlives bytes

end

/-- A NAK that cannot be written: the adapter is not running, its port is open,
    a stop does not close it, and an ACK that it hands over is counted. -/
theorem failed_start_leaves_port_open_without_nak :
    let m := Moment.new 0 ({ writeFails := true } : ScriptedPort) .default Config.valid_default
      .standard
    let failed := m.after .start
    m.Reachable ∧ m.host.running = false
      ∧ m.adapter.start.map Prod.fst = some (.error (.transport "write failed"))
      ∧ m.adapter.link.port.isOpen = false
      ∧ failed.host.running = false ∧ failed.adapter.link.Idle
      ∧ failed.adapter.stop = (.ok false, failed.adapter)
      ∧ failed.adapter.link.port.isOpen = true
      ∧ (failed.after (.receive [0x06])).adapter.link.received.ack = 1 := by
  intro m failed
  have hreachable : m.Reachable := ⟨_, _, _, _, _, [], rfl⟩
  have hanswered : m.adapter.start.map Prod.fst = some (.error (.transport "write failed")) := rfl
  obtain ⟨_, hstopped, _, hstop, hopen, _, hidle, _⟩ :=
    failed_start_leaves_port_open hreachable rfl hanswered nofun ScriptedPort.openness
  exact ⟨hreachable, rfl, hanswered, rfl, hstopped, (hidle rfl).2, hstop, hopen.mpr (.inr rfl),
    by decide⟩

/-- So not every start that fails closes the port. -/
theorem failed_start_need_not_close_port :
    ¬ ∀ (m : Moment ScriptedPort) (result : Except HostError Bool), m.Reachable →
      m.host.running = false → m.adapter.link.port.isOpen = false →
      m.adapter.start.map Prod.fst = some result → result ≠ .ok true →
      (m.after .start).adapter.link.port.isOpen = false := by
  intro hcloses
  let m := Moment.new 0 ({ writeFails := true } : ScriptedPort) .default Config.valid_default
    .standard
  have hreachable : m.Reachable := ⟨_, _, _, _, _, [], rfl⟩
  have hclosed := hcloses m (.error (.transport "write failed")) hreachable rfl rfl rfl nofun
  exact absurd hclosed (by decide)

/-- **So does a start that fails after its NAK has waited** for the line.  The
    adapter runs no longer, a stop has nothing to do, and the link is idle, but
    the port is as open as it was. -/
theorem late_failure_leaves_port_open {m : Moment π} (hm : m.Reachable) (o : Openness π)
    {result : Except HostError Bool} (hended : m.adapter.endStart?.map Prod.fst = some result)
    (hfails : result ≠ .ok true) :
    let failed := m.after .endStart
    (∃ text, result = .error (.transport text))
      ∧ failed.host = { closeQueue m.host with running := false }
      ∧ failed.adapter.stop = (.ok false, failed.adapter)
      ∧ failed.adapter.link.Idle
      ∧ o.isOpen failed.adapter.link.port = o.isOpen m.adapter.link.port := by
  intro failed
  obtain ⟨⟨answer, b⟩, hover, hresult⟩ := Option.map_eq_some_iff.mp hended
  obtain rfl : answer = result := hresult
  have hfailed : failed.adapter = b := by
    show (m.adapter.endStart?.map Prod.snd).getD m.adapter = b
    rw [hover]
    rfl
  obtain ⟨⟨sent, link⟩, hwaited, hannounced⟩ := Option.map_eq_some_iff.mp hover
  obtain ⟨frame, _, hsent⟩ := Option.map_eq_some_iff.mp hwaited
  show _ ∧ failed.adapter.host = _ ∧ _
  rw [hfailed]
  cases sent with
  | ok _ =>
    cases hannounced
    exact absurd rfl hfails
  | error error =>
    cases hannounced
    have hdismissed : (m.adapter.link.dismiss .starter).Balanced := hm.balanced
    have hidle := hdismissed.send_idle frame
    have hopen := Link.send_isOpen o (m.adapter.link.dismiss .starter) frame
    rw [hsent] at hidle hopen
    obtain ⟨text, rfl⟩ := Link.send_error hsent
    exact ⟨⟨text, rfl⟩, rfl, rfl, hidle, hopen⟩

/-! ## §3. Stops -/

/-- A stop fails whatever is in flight. -/
theorem Adapter.isTerminal_of_stop {a : Adapter π} (hrunning : a.host.running = true) {s : Sequence}
    (hs : a.stop.2.host.inFlight = some s) : s.isTerminal = true := by
  unfold Adapter.stop at hs
  rw [if_pos hrunning] at hs
  obtain ⟨t, _, rfl⟩ := Option.map_eq_some_iff.mp hs
  unfold Sequence.isTerminal Sequence.fail
  rw [Sequence.enter_state]
  rfl

/-- **A start over a port that opens and takes what is written** begins a
    session if no frame is being received, and else finds the line busy.  The
    link is idle in the end.  This is a start that nothing interrupts: while its
    NAK waits for the line, no byte comes in that would end the frame. -/
theorem Moment.start_over {m : Moment π} (hm : m.Reachable) (hstopped : m.host.running = false)
    (hcapacity : m.host.config.dispatchCapacity.toNat ≤ maxQueueCapacity)
    (hopened : (Port.openWithin m.host.config.openTimeout m.adapter.link.port).1 = .ok true)
    (hwrites : (Link.writeOut Frame.nak.toBytes
      (Port.openWithin m.host.config.openTimeout m.adapter.link.port).2).1 = .ok ()) :
    (m.after .start).adapter.link.Idle
      ∧ (m.adapter.link.decoder.inFrame = false
        → m.adapter.start.map Prod.fst = some (.ok true)
        ∧ (m.after .start).host = { m.host with running := true, queue := some [] })
      ∧ (m.adapter.link.decoder.inFrame = true →
        m.adapter.start.map Prod.fst = some (.error (.transport
          ("line busy for " ++ Text.duration m.adapter.link.lockTimeout)))
        ∧ (m.after .start).host.running = false) := by
  obtain ⟨hstarts, hfails⟩ := Adapter.start_of_stopped hstopped hcapacity
  have hresult := hm.balanced.openPort_eq hopened hwrites
  have hidle := hm.balanced.openPort_idle hopened
  show ((m.adapter.start.map Prod.snd).getD m.adapter).link.Idle
    ∧ (_ → _ ∧ ((m.adapter.start.map Prod.snd).getD m.adapter).host = _)
    ∧ (_ → _ ∧ ((m.adapter.start.map Prod.snd).getD m.adapter).host.running = false)
  cases hframe : m.adapter.link.decoder.inFrame with
  | false =>
    rw [hframe] at hresult
    rw [hstarts hresult]
    exact ⟨hidle, fun _ => ⟨rfl, rfl⟩, nofun⟩
  | true =>
    rw [hframe] at hresult
    have hno : (m.adapter.link.openPort m.adapter.host.config.openTimeout).1 ≠ .ok true := by
      show (m.adapter.link.openPort m.host.config.openTimeout).1 ≠ _
      rw [hresult]
      nofun
    rw [hfails hno]
    exact ⟨hidle, nofun, fun _ => ⟨congrArg some hresult, rfl⟩⟩

/-- **What an idle link hears** is what a decoder at rest makes of the bytes. -/
theorem Moment.hears_from_idle {m : Moment π} (hm : m.Reachable) (hidle : m.adapter.link.Idle)
    (hlives : m.host.lifetime ≠ .gone) (bytes : List UInt8) :
    let d := Decoder.idle
    (arrivals (m.queueNotes (.receive bytes))).map (fun a => (a.frame, a.command))
        = (d.feed (d.kept bytes)).1.filterMap m.host.decoded?
      ∧ (m.after (.receive bytes)).adapter.link.decoder = (d.feed (d.kept bytes)).2 := by
  have harrivals := Adapter.arrivals_queueNotes hm.balanced hlives bytes
  have hdecoder := Adapter.receive_decoder hm.balanced hlives bytes
  rw [hidle.decoder] at harrivals hdecoder
  exact ⟨harrivals, hdecoder⟩

/-- **A stop cleans up all but a line that it cannot free.**  The adapter is not
    running, has no queue, and whatever was in flight has failed.  The link is
    idle exactly if the port could be closed or no frame was being received;
    else the half frame is still there and holds the line.  The next start,
    over a port that opens and takes what is written, begins a session from a
    clean state if the link is idle.  Else it finds the line busy and, as
    nothing comes in meanwhile that would end the half frame, it fails; that
    drops the half frame, so the start after it can succeed. -/
theorem stop_frees_line_iff_closed {m : Moment π} (hm : m.Reachable)
    (hrunning : m.host.running = true) :
    let closed := (Port.close m.adapter.link.port).1
    let frees := closed.isOk = true ∨ m.adapter.link.decoder.inFrame = false
    let stopped := m.after .stop
    m.adapter.stop.1 = closed ∧ stopped.host.running = false ∧ stopped.host.queue = none
    ∧ (∀ s, stopped.host.inFlight = some s → s.isTerminal = true)
    ∧ (stopped.adapter.link.Idle ↔ frees)
    ∧ (¬ frees → stopped.adapter.link.decoder = m.adapter.link.decoder
      ∧ stopped.adapter.link.line = .held)
    ∧ ∀ port : π, let again := stopped.after (.port fun _ => port)
      let opened := Port.openWithin m.host.config.openTimeout port
      let started := again.after .start
      opened.1 = .ok true → (Link.writeOut Frame.nak.toBytes opened.2).1 = .ok () →
      m.host.config.dispatchCapacity.toNat ≤ maxQueueCapacity →
      started.adapter.link.Idle
      ∧ (frees → again.adapter.start.map Prod.fst = some (.ok true)
        ∧ started.host.running = true ∧ started.host.queue = some []
        ∧ (m.host.lifetime ≠ .gone → ∀ bytes, let d := Decoder.idle
          (arrivals (started.queueNotes (.receive bytes))).map (fun a => (a.frame, a.command))
            = (d.feed (d.kept bytes)).1.filterMap m.host.decoded?
          ∧ (started.after (.receive bytes)).adapter.link.decoder = (d.feed (d.kept bytes)).2))
      ∧ (¬ frees → again.adapter.start.map Prod.fst = some (.error (.transport
          ("line busy for " ++ Text.duration m.adapter.link.lockTimeout)))
        ∧ started.host.running = false) := by
  intro closed frees stopped
  obtain ⟨hresult, hlink, hidle, hqueue, hconfig, hregistry, hlifetime⟩ :=
    Adapter.stop_of_running (a := m.adapter) hrunning
  have hlink : stopped.adapter.link = m.adapter.link.closePort.2 := hlink
  have hstopped : stopped.Reachable := hm.after .stop
  have hfrees : stopped.adapter.link.Idle ↔ frees := by
    rw [hlink]
    exact hm.balanced.closePort_idle_iff
  -- a line that is not freed is held for the frame that was being received
  have hstuck (hnot : ¬ frees) : stopped.adapter.link.decoder = m.adapter.link.decoder
      ∧ stopped.adapter.link.decoder.inFrame = true := by
    obtain ⟨hdecoder, hframe⟩ := Link.closePort_stuck hnot
    rw [hlink, hdecoder]
    exact ⟨rfl, hframe⟩
  refine ⟨hresult, hidle, hqueue, fun s hs => Adapter.isTerminal_of_stop hrunning hs, hfrees,
    fun hnot => ⟨(hstuck hnot).1, hstopped.balanced.held (hstuck hnot).2⟩, ?_⟩
  intro port again opened started hopened hwrites hcapacity
  have hagain : again.Reachable := hstopped.after (.port fun _ => port)
  have hsame : again.host.config = m.host.config := hconfig
  have hpatience : again.adapter.link.lockTimeout = m.adapter.link.lockTimeout :=
    (congrArg Link.lockTimeout hlink).trans m.adapter.link.closePort_lockTimeout
  obtain ⟨hclean, hstarts, hfails⟩ := Moment.start_over hagain hidle (hsame ▸ hcapacity)
    (hsame ▸ hopened) (hsame ▸ hwrites)
  refine ⟨hclean, fun hyes => ?_, fun hnot => ?_⟩
  · obtain ⟨hok, hhost⟩ := hstarts (hstopped.balanced.idle_iff.mp (hfrees.mpr hyes))
    have hhost : started.host = { again.host with running := true, queue := some [] } := hhost
    refine ⟨hok, congrArg Host.running hhost, congrArg Host.queue hhost, fun hlives bytes => ?_⟩
    have hlives : started.host.lifetime ≠ .gone := by
      rw [hhost]
      exact hlifetime ▸ hlives
    have hknown : started.host.registry = m.host.registry := by
      rw [hhost]
      exact hregistry
    rw [← Host.decoded?_of_registry hknown]
    exact Moment.hears_from_idle (hagain.after .start) hclean hlives bytes
  · rw [← hpatience]
    exact hfails (hstuck hnot).2

/-- A port that cannot be closed, and two bytes of a frame: the stop leaves them
    on the line, and the next start finds it busy, although the port opens and
    takes what is written by then. -/
theorem stop_frees_line_iff_closed_but_half_frame :
    let m := Moment.started.run
      [.receive [0x01, 0x05], .port fun p => { p with closeFails := true }]
    let stopped := m.after .stop
    let again := stopped.after (.port fun _ => {})
    m.Reachable ∧ m.host.running = true
      ∧ m.adapter.stop.1 = .error (.serial "mock close")
      ∧ stopped.host.running = false ∧ stopped.host.queue = none
      ∧ stopped.adapter.link.decoder = .reading 5 [] ∧ stopped.adapter.link.line = .held
      ∧ again.adapter.start.map Prod.fst
        = some (.error (.transport ("line busy for " ++ Text.duration 30000)))
      ∧ (again.after .start).adapter.link.Idle
      ∧ (again.run [.start, .start]).host.running = true := by
  intro m stopped again
  have hreachable : m.Reachable := Moment.reachable_started.run _
  obtain ⟨hresult, hstopped, hqueue, _, _, hstuck, hagain⟩ :=
    stop_frees_line_iff_closed hreachable rfl
  have hnot : ¬ ((Port.close m.adapter.link.port).1.isOk = true
      ∨ m.adapter.link.decoder.inFrame = false) := by decide
  obtain ⟨hidle, _, hbusy⟩ := hagain {} rfl rfl (by decide)
  exact ⟨hreachable, rfl, hresult, hstopped, hqueue, (hstuck hnot).1, (hstuck hnot).2,
    (hbusy hnot).1, hidle, by decide⟩

/-- So not every stop frees the line. -/
theorem stop_need_not_free_line :
    ¬ ∀ m : Moment ScriptedPort, m.Reachable → m.host.running = true →
      (m.after .stop).adapter.link.Idle := by
  intro hfrees
  let m := Moment.started.run [.receive [0x01, 0x05], .port fun p => { p with closeFails := true }]
  have hidle := hfrees m (Moment.reachable_started.run _) rfl
  exact absurd hidle.line (by decide)

end ZWaveHost
