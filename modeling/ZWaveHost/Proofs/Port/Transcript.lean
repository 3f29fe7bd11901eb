/-
  ZWaveHost.Proofs.Port.Transcript — what has been written to a port.

  A port is a type with operations and no more, so what has been written to
  it has to be read off its state.  A transcript says how, for the ports that
  take what is written to them.

  Main fact: over an idle link to such a port a frame is sent as a whole, and
  nothing else is written (`Link.Idle.send_written`).
-/
import ZWaveHost.Port.Scripted
import ZWaveHost.Proofs.Link.Balance

namespace ZWaveHost

/-- A way to read off a port what has been written to it, as long as it takes
    what is written. -/
structure Transcript (π : Type) [Port π] where
  /-- The bytes written so far. -/
  written : π → List UInt8
  /-- The port takes what is written to it. -/
  Accepts : π → Prop
  write : ∀ {port} bytes, Accepts port → (Port.write bytes port).1 = .ok ()
    ∧ Accepts (Port.write bytes port).2
    ∧ written (Port.write bytes port).2 = written port ++ bytes
  flush : ∀ {port}, Accepts port → (Port.flush port).1 = .ok ()
    ∧ Accepts (Port.flush port).2 ∧ written (Port.flush port).2 = written port
  /-- Whether stale input can be dropped does not matter. -/
  clearInput : ∀ {port}, Accepts port → Accepts (Port.clearInput port).2
    ∧ written (Port.clearInput port).2 = written port

/-- A scripted port remembers what is written to it while it is open. -/
def ScriptedPort.transcript : Transcript ScriptedPort where
  written p := p.written.flatten
  Accepts p := p.isOpen = true ∧ p.writeFails = false ∧ p.flushFails = false
  write := by
    intro p bytes hp
    obtain ⟨hopen, hwrite, hflush⟩ := hp
    have hok : Port.write bytes p = (.ok (), { p with written := p.written ++ [bytes] }) := by
      show (if ¬p.isOpen then _ else if p.writeFails then _ else _) = _
      rw [hopen, hwrite]
      rfl
    rw [hok]
    refine ⟨rfl, ⟨hopen, hwrite, hflush⟩, ?_⟩
    show (p.written ++ [bytes]).flatten = p.written.flatten ++ bytes
    simp only [List.flatten_append, List.flatten_cons, List.flatten_nil, List.append_nil]
  flush := by
    intro p hp
    obtain ⟨hopen, hwrite, hflush⟩ := hp
    have hok : Port.flush p = (.ok (), p) := by
      show (faultIf p.flushFails "flush failed", p) = _
      rw [hflush]
      rfl
    rw [hok]
    exact ⟨rfl, ⟨hopen, hwrite, hflush⟩, rfl⟩
  clearInput := fun hp => ⟨hp, rfl⟩

namespace Link

variable {π : Type} [Port π]

/-- Bytes that are written out reach the port. -/
theorem writeOut_written (t : Transcript π) {port : π} (bytes : List UInt8)
    (haccepts : t.Accepts port) :
    (writeOut bytes port).1 = .ok () ∧ t.Accepts (writeOut bytes port).2
      ∧ t.written (writeOut bytes port).2 = t.written port ++ bytes := by
  obtain ⟨hcleared, hkept⟩ := t.clearInput haccepts
  unfold writeOut
  rcases hclear : Port.clearInput port with ⟨_, cleared⟩
  rw [hclear] at hcleared hkept
  obtain ⟨hok, htaken, hwritten⟩ := t.write bytes hcleared
  dsimp only
  rcases hresult : Port.write bytes cleared with ⟨result, taken⟩
  rw [hresult] at hok htaken hwritten
  obtain rfl : result = .ok () := hok
  obtain ⟨hflushed, haccepts, hsame⟩ := t.flush htaken
  exact ⟨hflushed, haccepts, by rw [hsame, hwritten, hkept]⟩

/-- **A frame that is sent over an idle link is written**, and nothing else is. -/
theorem Idle.send_written (t : Transcript π) {l : Link π} (hl : l.Idle) (frame : Frame)
    (haccepts : t.Accepts l.port) :
    t.Accepts (l.send frame).2.port
      ∧ t.written (l.send frame).2.port = t.written l.port ++ frame.toBytes := by
  obtain ⟨hok, hstill, hwritten⟩ := writeOut_written t frame.toBytes haccepts
  rw [hl.send_eq]
  rcases hresult : writeOut frame.toBytes l.port with ⟨result, port⟩
  rw [hresult] at hok hstill hwritten
  obtain rfl : result = .ok () := hok
  exact ⟨hstill, hwritten⟩

end Link

end ZWaveHost
