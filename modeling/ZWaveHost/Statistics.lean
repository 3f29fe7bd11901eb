/-
  ZWaveHost.Statistics — how many frames went one way.
-/
import ZWaveHost.Frame
import ZWaveHost.Json.Form

namespace ZWaveHost

/-- The counters of one direction. -/
structure Statistics where
  /-- Data frames. -/
  sof : UInt64
  ack : UInt64
  nak : UInt64
  can : UInt64
  /-- Bytes that belong to no frame. -/
  outOfFrame : UInt64
  /-- Commands that found the dispatch queue full. -/
  dropped : UInt64
  deriving DecidableEq

namespace Statistics

/-- Nothing has been counted. -/
def zero : Statistics := ⟨0, 0, 0, 0, 0, 0⟩

instance : Inhabited Statistics := ⟨zero⟩

/-- Counts a frame. -/
def record (s : Statistics) : FrameType → Statistics
  | .sof => { s with sof := s.sof + 1 }
  | .ack => { s with ack := s.ack + 1 }
  | .nak => { s with nak := s.nak + 1 }
  | .can => { s with can := s.can + 1 }

/-- Counts a byte that belongs to no frame. -/
def recordOutOfFrame (s : Statistics) : Statistics := { s with outOfFrame := s.outOfFrame + 1 }

/-- Counts a command that found the dispatch queue full. -/
def recordDropped (s : Statistics) : Statistics := { s with dropped := s.dropped + 1 }

end Statistics

instance : JsonForm Statistics where
  toJson s := .record
    [("sof", toJson s.sof), ("ack", toJson s.ack), ("nak", toJson s.nak), ("can", toJson s.can),
     ("out_of_frame", toJson s.outOfFrame), ("dropped", toJson s.dropped)]
  ofJson? j := do
    let f ← Json.fields? ["sof", "ack", "nak", "can", "out_of_frame", "dropped"] j
    return ⟨← f.required? "sof", ← f.required? "ack", ← f.required? "nak", ← f.required? "can",
      ← f.required? "out_of_frame", ← f.required? "dropped"⟩

end ZWaveHost
