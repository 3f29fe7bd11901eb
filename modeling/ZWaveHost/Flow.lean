/-
  ZWaveHost.Flow — the frames that make up one exchange.
-/

namespace ZWaveHost

/-- What follows a request, or that a command is never a request. -/
inductive Flow where
  /-- Nothing follows, not even an ACK. -/
  | unacknowledged
  /-- An ACK. -/
  | acknowledged
  /-- An ACK and a response. -/
  | response
  /-- An ACK and a callback. -/
  | callback
  /-- An ACK, a response and a callback. -/
  | responseAndCallback
  /-- The command comes from the module of its own accord. -/
  | unsolicited
  deriving DecidableEq, Inhabited

namespace Flow

/-- Whether a response follows the request. -/
def hasResponse : Flow → Bool
  | .response => true
  | .responseAndCallback => true
  | _ => false

/-- Whether a callback follows the request. -/
def hasCallback : Flow → Bool
  | .callback => true
  | .responseAndCallback => true
  | _ => false

/-- The name of a flow. -/
def name : Flow → String
  | .unacknowledged => "UnackFrame"
  | .acknowledged => "AckFrame"
  | .response => "AckFrameWithResponse"
  | .callback => "AckFrameWithCallback"
  | .responseAndCallback => "AckFrameWithResponseAndCallback"
  | .unsolicited => "Unsolicited"

/-- Every flow. -/
def all : List Flow :=
  [.unacknowledged, .acknowledged, .response, .callback, .responseAndCallback, .unsolicited]

end Flow

end ZWaveHost
