/-
  ZWaveHost.Proofs.Port.Audit — the frames that have gone out.

  A frame has gone out when its write and the flush behind it have both
  succeeded.  An audited port is a port of any kind whose writes and flushes
  are looked at: the audit sees what the port answers, and nothing of what
  the link makes of it.

  Main fact: a link does the same over a port that is audited, and what it
  has counted as sent are the frames that have gone out
  (`Call.performAll_audits`).
-/
import ZWaveHost.Proofs.Link.Opening
import ZWaveHost.Proofs.Link.Watch

namespace ZWaveHost

/-! ## §1. Ports under audit -/

/-- A port of any kind, and what has gone out through it. -/
structure Audited (π : Type) where
  port : π
  /-- The last write, if the port has taken it and was not flushed since. -/
  unflushed : Option (List UInt8)
  /-- The writes that the port has taken and flushed, in order. -/
  completed : List (List UInt8)

namespace Audited

variable {π : Type}

/-- The audit of a port begins. -/
def new (port : π) : Audited π := ⟨port, none, []⟩

/-- A write, if an operation has succeeded. -/
def ifOk : Except IoFault Unit → Option (List UInt8) → Option (List UInt8)
  | .ok _, write => write
  | .error _, _ => none

variable [Port π]

instance : Port (Audited π) where
  openWithin timeout p :=
    ((Port.openWithin timeout p.port).1, { p with port := (Port.openWithin timeout p.port).2 })
  close p := ((Port.close p.port).1, { p with port := (Port.close p.port).2 })
  write bytes p :=
    ((Port.write bytes p.port).1,
      ⟨(Port.write bytes p.port).2, ifOk (Port.write bytes p.port).1 (some bytes), p.completed⟩)
  flush p :=
    ((Port.flush p.port).1,
      ⟨(Port.flush p.port).2, none,
        p.completed ++ (ifOk (Port.flush p.port).1 p.unflushed).toList⟩)
  clearInput p := ((Port.clearInput p.port).1, { p with port := (Port.clearInput p.port).2 })

/-- **Bytes go out** if they can be written out, and the port is the same as
    without the audit. -/
theorem writeOut_eq (bytes : List UInt8) (p : Audited π) :
    (Link.writeOut bytes p).1 = (Link.writeOut bytes p.port).1
      ∧ (Link.writeOut bytes p).2.port = (Link.writeOut bytes p.port).2
      ∧ (Link.writeOut bytes p).2.completed
        = p.completed ++ (ifOk (Link.writeOut bytes p.port).1 (some bytes)).toList := by
  have haudited : Port.write bytes (Port.clearInput p).2
      = ((Port.write bytes (Port.clearInput p.port).2).1,
        ⟨(Port.write bytes (Port.clearInput p.port).2).2,
          ifOk (Port.write bytes (Port.clearInput p.port).2).1 (some bytes), p.completed⟩) := rfl
  unfold Link.writeOut
  dsimp only
  rw [haudited]
  rcases Port.write bytes (Port.clearInput p.port).2 with ⟨result, taken⟩
  cases result with
  | error fault => exact ⟨rfl, rfl, (List.append_nil _).symm⟩
  | ok _ => exact ⟨rfl, rfl, rfl⟩

end Audited

/-! ## §2. Links under audit -/

variable {π σ : Type}

namespace Link

/-- A link without the audit of its port. -/
def unaudited (a : Link (Audited π)) : Link π :=
  { port := a.port.port, decoder := a.decoder, line := a.line, lockTimeout := a.lockTimeout
    received := a.received, sent := a.sent, waiters := a.waiters }

/-- One link is another with its port audited, and has counted as sent the
    frames that have gone out. -/
structure Audits (a : Link (Audited π)) (l : Link π) : Prop where
  same : a.unaudited = l
  sent : ∃ frames : List Frame, a.port.completed = frames.map Frame.toBytes
    ∧ a.sent = frames.foldl (fun counters frame => counters.record frame.type) .zero

theorem audits_new (port : π) (lockTimeout : Nat) :
    (new (Audited.new port) lockTimeout).Audits (new port lockTimeout) := ⟨rfl, [], rfl, rfl⟩

variable {a : Link (Audited π)} {l : Link π}

theorem Audits.resynchronize (h : a.Audits l) : a.resynchronize.Audits l.resynchronize := by
  obtain ⟨rfl, hsent⟩ := h
  unfold Link.resynchronize
  by_cases hframe : a.decoder.inFrame = true
  · have hsame : a.unaudited.decoder.inFrame = true := hframe
    rw [if_pos hframe, if_pos hsame]
    exact ⟨rfl, hsent⟩
  · have hsame : ¬ a.unaudited.decoder.inFrame = true := hframe
    rw [if_neg hframe, if_neg hsame]
    exact ⟨rfl, hsent⟩

theorem Audits.tookIn (h : a.Audits l) (byte : UInt8) : (a.tookIn byte).Audits (l.tookIn byte) := by
  obtain ⟨rfl, hsent⟩ := h
  unfold Link.tookIn receiveByte
  -- the port is not asked, and nothing is sent
  rcases hpush : a.decoder.push byte with ⟨result, decoder⟩
  have hsame : a.unaudited.decoder.push byte = (result, decoder) := hpush
  rw [hsame]
  cases result with
  | error e => exact ⟨rfl, hsent⟩
  | ok event =>
    cases event with
    | pending => exact ⟨rfl, hsent⟩
    | outOfFrame noise => exact ⟨rfl, hsent⟩
    | frame frame => exact ⟨rfl, hsent⟩

variable [Port π]

/-- **A frame is counted as sent** exactly if it has gone out. -/
theorem Audits.send (h : a.Audits l) (frame : Frame) :
    (a.send frame).1 = (l.send frame).1 ∧ (a.send frame).2.Audits (l.send frame).2 := by
  have hheld := h.resynchronize
  obtain ⟨rfl, frames, hcompleted, hcounted⟩ := h
  obtain ⟨hresult, hport, hout⟩ := Audited.writeOut_eq frame.toBytes a.port
  unfold Link.send
  have hline : a.unaudited.line = a.line := rfl
  have hplain : a.unaudited.port = a.port.port := rfl
  rw [hline, hplain]
  cases a.line with
  | held => exact ⟨rfl, hheld⟩
  | free =>
    dsimp only [Line.acquire?]
    rcases hwritten : writeOut frame.toBytes a.port with ⟨result, port⟩
    rcases hunaudited : writeOut frame.toBytes a.port.port with ⟨result', port'⟩
    rw [hwritten, hunaudited] at hresult hport
    rw [hwritten, hunaudited, hcompleted] at hout
    obtain rfl : result = result' := hresult
    obtain rfl : port.port = port' := hport
    cases result with
    | error fault =>
      -- nothing has gone out, and nothing is counted
      refine ⟨rfl, rfl, frames, ?_, hcounted⟩
      rw [← List.append_nil (frames.map Frame.toBytes)]
      exact hout
    | ok _ =>
      refine ⟨rfl, rfl, frames ++ [frame], ?_, ?_⟩
      · rw [List.map_append]
        exact hout
      · rw [List.foldl_append, ← hcounted]
        rfl

omit [Port π] in
/-- A port that changes sends nothing by itself. -/
theorem Audits.withPort (h : a.Audits l) (port : π) :
    ({ a with port := { a.port with port := port } } : Link (Audited π)).Audits
      { l with port := port } := by
  obtain ⟨rfl, hsent⟩ := h
  exact ⟨rfl, hsent⟩

theorem Audits.openPort (h : a.Audits l) (timeout : Nat) :
    (a.openPort timeout).2.Audits (l.openPort timeout).2 := by
  have hafter := h.withPort (Port.openWithin timeout l.port).2
  have haudited : Port.openWithin timeout a.port
      = ((Port.openWithin timeout l.port).1,
        { a.port with port := (Port.openWithin timeout l.port).2 }) := by
    rw [← h.same]
    rfl
  have hport := congrArg Prod.snd haudited
  have hanswer := congrArg Prod.fst haudited
  by_cases hopened : (Port.openWithin timeout l.port).1 = .ok true
  · rw [openPort_of_opened hopened, openPort_of_opened (hanswer.trans hopened), hport]
    exact (hafter.send .nak).2
  · rw [openPort_of_unopened hopened, openPort_of_unopened (hanswer ▸ hopened), hport]
    exact hafter

theorem Audits.closePort (h : a.Audits l) : a.closePort.2.Audits l.closePort.2 := by
  have hafter := h.withPort (Port.close l.port).2
  have haudited : Port.close a.port
      = ((Port.close l.port).1, { a.port with port := (Port.close l.port).2 }) := by
    rw [← h.same]
    rfl
  have hport := congrArg Prod.snd haudited
  have hanswer := congrArg Prod.fst haudited
  cases hclosed : (Port.close l.port).1 with
  | error e =>
    rw [closePort_of_error hclosed, closePort_of_error (hanswer.trans hclosed), hport]
    exact hafter
  | ok wasOpen =>
    rw [closePort_of_ok hclosed, closePort_of_ok (hanswer.trans hclosed), hport]
    exact hafter.resynchronize

/-! ## §3. Calls under audit -/

/-- The same for two links in use. -/
structure AuditsUse (x : Link (Audited π) × σ) (y : Link π × σ) : Prop where
  link : x.1.Audits y.1
  state : x.2 = y.2

/-- What is done with a frame is the same over both links. -/
theorem Audits.run (h : a.Audits l) (c : Callback σ) : AuditsUse (c.run a) (c.run l) := by
  -- every sender is answered the same, so what is sent next is the same
  induction c generalizing a l with
  | done s => exact ⟨h, rfl⟩
  | send frame next ih =>
    obtain ⟨hresult, hsent⟩ := h.send frame
    have hnext := ih (a.send frame).1 hsent
    show AuditsUse _ ((next (l.send frame).1).run (l.send frame).2)
    rw [← hresult]
    exact hnext

theorem AuditsUse.handle {x : Link (Audited π) × σ} {y : Link π × σ} (h : AuditsUse x y)
    (callback : Frame → σ → Callback σ) (result : Except FrameError DecodeEvent) :
    AuditsUse (Link.handle (deliverTo callback) result x)
      (Link.handle (deliverTo callback) result y) := by
  cases result with
  | error e => exact ⟨(h.link.send .nak).2, h.state⟩
  | ok event =>
    cases event with
    | pending => exact h
    | outOfFrame noise => exact h
    | frame frame =>
      show AuditsUse ((callback frame x.2).run x.1) ((callback frame y.2).run y.1)
      rw [h.state]
      exact h.link.run _

/-- **A chunk is taken in the same over both links.** -/
theorem AuditsUse.receive {x : Link (Audited π) × σ} {y : Link π × σ} (h : AuditsUse x y)
    (callback : Frame → σ → Callback σ) (bytes : List UInt8) :
    AuditsUse (Link.receive (deliverTo callback) bytes x)
      (Link.receive (deliverTo callback) bytes y) := by
  induction bytes generalizing x y with
  | nil => exact h
  | cons byte rest ih =>
    obtain ⟨a, s⟩ := x
    obtain ⟨l, s'⟩ := y
    have hdecoder : a.decoder = l.decoder := congrArg Link.decoder h.link.same
    have htook : AuditsUse (a.tookIn byte, s) (l.tookIn byte, s') := ⟨h.link.tookIn byte, h.state⟩
    cases hresult : (l.decoder.push byte).1 with
    | error e =>
      rw [receive_cons_of_error (by rw [hdecoder, hresult]), receive_cons_of_error hresult]
      exact htook.handle callback (.error e)
    | ok event =>
      rw [receive_cons_of_ok (by rw [hdecoder, hresult]), receive_cons_of_ok hresult]
      exact ih (htook.handle callback (.ok event))

end Link

namespace Call

variable [Port π] {x : Link (Audited π) × σ} {y : Link π × σ}

theorem perform_audits (c : Call σ) (h : Link.AuditsUse x y) :
    Link.AuditsUse (c.perform x) (c.perform y) := by
  cases c with
  | openPort timeout => exact ⟨h.link.openPort timeout, h.state⟩
  | closePort => exact ⟨h.link.closePort, h.state⟩
  | send frame => exact ⟨(h.link.send frame).2, h.state⟩
  | resynchronize => exact ⟨h.link.resynchronize, h.state⟩
  | receive bytes callback => exact h.receive callback bytes

/-- **A link does the same over a port that is audited**, and what it has
    counted as sent are the frames that have gone out. -/
theorem performAll_audits (calls : List (Call σ)) (h : Link.AuditsUse x y) :
    Link.AuditsUse (performAll calls x) (performAll calls y) := by
  induction calls generalizing x y with
  | nil => exact h
  | cons c rest ih => exact ih (c.perform_audits h)

end Call

end ZWaveHost
