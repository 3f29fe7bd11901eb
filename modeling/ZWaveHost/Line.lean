/-
  ZWaveHost.Line — the half-duplex line.

  The line has at most one user.  The receiver takes it when a data frame
  begins and gives it back, perhaps many bytes later, when the frame is over;
  a sender holds it for one write.
-/

namespace ZWaveHost

/-- Whether somebody uses the line. -/
inductive Line where
  | free
  | held
  deriving DecidableEq, Inhabited

namespace Line

/-- Whether somebody uses the line. -/
def isHeld : Line → Bool
  | .free => false
  | .held => true

/-- The line in use by the caller; none if the caller has to wait. -/
def acquire? : Line → Option Line
  | .free => some .held
  | .held => none

/-- Takes the line if it is free; says whether it was. -/
def tryAcquire (line : Line) : Bool × Line :=
  match line.acquire? with
  | some line => (true, line)
  | none => (false, line)

/-- Gives the line back; a free line stays free. -/
def release (_ : Line) : Line := .free

/-- Runs an action that needs the line, and gives the line back after it;
    without the line the action does not run. -/
def guarded {α : Type} (line : Line) (action : Line → α) : Option α × Line :=
  match line.acquire? with
  | some line => (some (action line), line.release)
  | none => (none, line)

/-- The user gives the line back to one that waits for it. -/
def handOver (line : Line) : Option Line := line.release.acquire?

end Line

end ZWaveHost
