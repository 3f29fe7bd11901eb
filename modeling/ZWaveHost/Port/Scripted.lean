/-
  ZWaveHost.Port.Scripted — a port without a device.

  Its faults are switched on and off by hand, and it remembers what was
  written to it.  It serves to try the host without hardware.
-/
import ZWaveHost.Port.Basic

namespace ZWaveHost

/-- What happens when the port is to be opened. -/
inductive Opening where
  | succeeds
  | isRefused
  | fails
  deriving DecidableEq, Inhabited

/-- A port whose faults are switched by hand. -/
structure ScriptedPort where
  isOpen : Bool := false
  opening : Opening := .succeeds
  closeFails : Bool := false
  writeFails : Bool := false
  flushFails : Bool := false
  clearFails : Bool := false
  /-- The writes since they were last taken, in order. -/
  written : List (List UInt8) := []
  deriving DecidableEq, Inhabited

namespace ScriptedPort

/-- A fault if the switch is on. -/
def faultIf (switch : Bool) (text : String) : Except IoFault Unit :=
  if switch then .error (.other text) else .ok ()

instance : Port ScriptedPort where
  openWithin _ p :=
    match p.opening with
    | .succeeds => (.ok true, { p with isOpen := true })
    | .isRefused => (.ok false, p)
    | .fails => (.error (.serial "mock open"), p)
  close p :=
    if p.closeFails then (.error (.serial "mock close"), p)
    else (.ok p.isOpen, { p with isOpen := false })
  write bytes p :=
    if ¬p.isOpen then (.error (.other "port closed"), p)
    else if p.writeFails then (.error (.other "write failed"), p)
    else (.ok (), { p with written := p.written ++ [bytes] })
  flush p := (faultIf p.flushFails "flush failed", p)
  clearInput p := (faultIf p.clearFails "clear failed", p)

/-- The writes since they were last taken. -/
def takeWritten (p : ScriptedPort) : List (List UInt8) × ScriptedPort :=
  (p.written, { p with written := [] })

end ScriptedPort

end ZWaveHost
