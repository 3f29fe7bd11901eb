/-
  ZWaveHost.Release — which release of the library this is.
-/

namespace ZWaveHost

/-- The number of this release. -/
def release : String := "0.1.0"

end ZWaveHost
