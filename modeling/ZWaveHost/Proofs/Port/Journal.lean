/-
  ZWaveHost.Proofs.Port.Journal — what has been tried on a port.

  A write may fail, and then nothing on the line shows that it was tried.  A
  journal says how to read off a port every write that was tried, whether the
  port took it or not.  Any port can keep one (`Logged`).

  Main fact: a frame that is sent over an idle link is tried exactly once
  (`Link.Idle.send_tried`).
-/
import ZWaveHost.Proofs.Link.Balance

namespace ZWaveHost

/-- A way to read off a port what was tried to write to it. -/
structure Journal (π : Type) [Port π] where
  /-- The writes that have been tried, in order. -/
  tried : π → List (List UInt8)
  write : ∀ bytes port, tried (Port.write bytes port).2 = tried port ++ [bytes]
  flush : ∀ port, tried (Port.flush port).2 = tried port
  clearInput : ∀ port, tried (Port.clearInput port).2 = tried port

/-- A port of any kind, with a log of the writes that have been tried. -/
structure Logged (π : Type) where
  port : π
  log : List (List UInt8)

namespace Logged

variable {π : Type} [Port π]

instance : Port (Logged π) where
  openWithin timeout p :=
    ((Port.openWithin timeout p.port).1, { p with port := (Port.openWithin timeout p.port).2 })
  close p := ((Port.close p.port).1, { p with port := (Port.close p.port).2 })
  write bytes p :=
    ((Port.write bytes p.port).1, ⟨(Port.write bytes p.port).2, p.log ++ [bytes]⟩)
  flush p := ((Port.flush p.port).1, { p with port := (Port.flush p.port).2 })
  clearInput p := ((Port.clearInput p.port).1, { p with port := (Port.clearInput p.port).2 })

/-- The log is a journal. -/
def journal : Journal (Logged π) where
  tried := log
  write _ _ := rfl
  flush _ := rfl
  clearInput _ := rfl

end Logged

namespace Link

variable {π : Type} [Port π]

/-- Bytes that are to be written out are tried once. -/
theorem writeOut_tried (j : Journal π) (bytes : List UInt8) (port : π) :
    j.tried (writeOut bytes port).2 = j.tried port ++ [bytes] := by
  have hwrite := j.write bytes (Port.clearInput port).2
  rw [j.clearInput] at hwrite
  unfold writeOut
  dsimp only
  rcases hresult : Port.write bytes (Port.clearInput port).2 with ⟨result, taken⟩
  rw [hresult] at hwrite
  cases result with
  | ok _ => exact (j.flush taken).trans hwrite
  | error fault => exact hwrite

/-- **A frame that is sent over an idle link is tried exactly once.** -/
theorem Idle.send_tried (j : Journal π) {l : Link π} (hl : l.Idle) (frame : Frame) :
    j.tried (l.send frame).2.port = j.tried l.port ++ [frame.toBytes] := by
  have htried := writeOut_tried j frame.toBytes l.port
  rw [hl.send_eq]
  rcases hresult : writeOut frame.toBytes l.port with ⟨result, port⟩
  rw [hresult] at htried
  cases result with
  | ok _ => exact htried
  | error fault => exact htried

end Link

end ZWaveHost
