/-
  ZWaveHost.Proofs.Port.Openness — whether a port is open.

  A port is opened and closed by its own operations, and what these leave
  behind when they fail is its own affair.  An openness says how to read off
  a port whether it is open, for the ports on which only opening and closing
  changes that.

  Main facts: writing does not change it (`Link.writeOut_isOpen`), and neither
  does sending a frame, whatever becomes of it (`Link.send_isOpen`).
-/
import ZWaveHost.Port.Scripted
import ZWaveHost.Proofs.Link.Balance

namespace ZWaveHost

/-! ## §1. Ports -/

/-- A way to read off a port whether it is open. -/
structure Openness (π : Type) [Port π] where
  isOpen : π → Bool
  /-- A port that answers that it is open is open. -/
  opened : ∀ timeout port, (Port.openWithin timeout port).1 = .ok true →
    isOpen (Port.openWithin timeout port).2 = true
  /-- A port that refuses or fails to open stays as it is. -/
  unopened : ∀ timeout port, (Port.openWithin timeout port).1 ≠ .ok true →
    isOpen (Port.openWithin timeout port).2 = isOpen port
  write : ∀ bytes port, isOpen (Port.write bytes port).2 = isOpen port
  flush : ∀ port, isOpen (Port.flush port).2 = isOpen port
  clearInput : ∀ port, isOpen (Port.clearInput port).2 = isOpen port

/-- A scripted port knows whether it is open. -/
def ScriptedPort.openness : Openness ScriptedPort where
  isOpen := isOpen
  opened := by
    intro timeout p hok
    rcases p with ⟨_, opening, _, _, _, _, _⟩
    cases opening with
    | succeeds => rfl
    | isRefused => cases hok
    | fails => cases hok
  unopened := by
    intro timeout p hno
    rcases p with ⟨_, opening, _, _, _, _, _⟩
    cases opening with
    | succeeds => exact absurd rfl hno
    | isRefused => rfl
    | fails => rfl
  write := by
    intro bytes p
    show (if ¬p.isOpen then _ else if p.writeFails then _ else _ : _ × ScriptedPort).2.isOpen = _
    split
    · rfl
    · split <;> rfl
  flush _ := rfl
  clearInput _ := rfl

namespace Link

variable {π : Type} [Port π]

/-- What is written out leaves the port open or closed, whether it gets there
    or not. -/
theorem writeOut_isOpen (o : Openness π) (bytes : List UInt8) (port : π) :
    o.isOpen (writeOut bytes port).2 = o.isOpen port := by
  have hwrite := o.write bytes (Port.clearInput port).2
  rw [o.clearInput] at hwrite
  unfold writeOut
  dsimp only
  rcases hresult : Port.write bytes (Port.clearInput port).2 with ⟨result, taken⟩
  rw [hresult] at hwrite
  cases result with
  | ok _ => exact (o.flush taken).trans hwrite
  | error fault => exact hwrite

/-- Nor does sending open or close the port. -/
theorem send_isOpen (o : Openness π) (l : Link π) (frame : Frame) :
    o.isOpen (l.send frame).2.port = o.isOpen l.port := by
  have hwritten := writeOut_isOpen o frame.toBytes l.port
  unfold send
  split
  · unfold resynchronize
    split <;> rfl
  · split
    · next port hresult => rw [hresult] at hwritten; exact hwritten
    · next fault port hresult => rw [hresult] at hwritten; exact hwritten

end Link

end ZWaveHost
