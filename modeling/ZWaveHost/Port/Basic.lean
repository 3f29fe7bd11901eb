/-
  ZWaveHost.Port.Basic — what the host needs of a port.

  A port is an ordered stream of bytes either way.  How it answers is its
  own affair, so everything above it holds for any port.
-/
import ZWaveHost.Error

namespace ZWaveHost

/-- The operations of a port; each returns its result and the port after it. -/
class Port (π : Type) where
  /-- Opens the port within so many milliseconds; false if that is refused. -/
  openWithin : Nat → π → Except HostError Bool × π
  /-- Closes the port; says whether it was open. -/
  close : π → Except HostError Bool × π
  write : List UInt8 → π → Except IoFault Unit × π
  flush : π → Except IoFault Unit × π
  /-- Drops what has come in and was not read. -/
  clearInput : π → Except IoFault Unit × π

end ZWaveHost
