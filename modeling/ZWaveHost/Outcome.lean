/-
  ZWaveHost.Outcome — how an exchange ended.
-/
import ZWaveHost.Command.Form
import ZWaveHost.Sequence

namespace ZWaveHost

/-- The end of an exchange: complete or failed, after so many transmissions,
    with what was received. -/
structure Outcome where
  state : SequenceState
  attempts : UInt32
  response : Option Command
  callback : Option Command
  deriving DecidableEq

namespace Outcome

/-- The end of a sequence.  The attempt after the last one is not made, so it
    does not count. -/
def ofSequence (s : Sequence) : Outcome where
  state := s.state
  attempts := min s.attempt s.maxRetries
  response := s.response
  callback := s.callback

/-- Whether everything that was expected has come. -/
def isComplete (o : Outcome) : Bool := o.state = .complete

/-- The response, if it is of a kind. -/
def responseAs? (o : Outcome) (kind : CommandKind) : Option Command :=
  o.response.bind (Command.ofKind? kind)

/-- The callback, if it is of a kind. -/
def callbackAs? (o : Outcome) (kind : CommandKind) : Option Command :=
  o.callback.bind (Command.ofKind? kind)

end Outcome

instance : JsonForm SequenceState where
  toJson s := .text s.name
  ofJson? := Json.ofName? SequenceState.all SequenceState.name

instance : JsonForm Flow where
  toJson f := .text f.name
  ofJson? := Json.ofName? Flow.all Flow.name

instance : JsonForm Outcome where
  toJson o := .record
    [("state", toJson o.state), ("attempts", toJson o.attempts),
     ("response", toJson o.response), ("callback", toJson o.callback)]
  ofJson? j := do
    let f ← Json.fields? ["state", "attempts", "response", "callback"] j
    return ⟨← f.required? "state", ← f.required? "attempts", ← f.optional? "response",
      ← f.optional? "callback"⟩

end ZWaveHost
