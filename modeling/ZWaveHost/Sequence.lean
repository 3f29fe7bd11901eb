/-
  ZWaveHost.Sequence — the progress of one request.

  A sequence goes from its request through the ACK, the response and the
  callback that its flow calls for.  Whoever waits for the end holds a
  signal: entering `complete` or `failed` resolves the signal that was handed
  out last.  An operation that does not fit the state is refused and changes
  nothing.
-/
import ZWaveHost.Command
import ZWaveHost.Flow
import ZWaveHost.Frame

namespace ZWaveHost

/-! ## §1. States, signals and errors -/

/-- How far a sequence has come. -/
inductive SequenceState where
  | pending
  | waitingForAck
  | waitingForResponse
  | waitingForCallback
  | complete
  | failed
  deriving DecidableEq, Inhabited

namespace SequenceState

/-- Whether nothing more will happen. -/
def isTerminal : SequenceState → Bool
  | .complete => true
  | .failed => true
  | _ => false

/-- The name of a state. -/
def name : SequenceState → String
  | .pending => "Pending"
  | .waitingForAck => "WaitingForAck"
  | .waitingForResponse => "WaitingForResponse"
  | .waitingForCallback => "WaitingForCallback"
  | .complete => "Complete"
  | .failed => "Failed"

/-- Every state. -/
def all : List SequenceState :=
  [.pending, .waitingForAck, .waitingForResponse, .waitingForCallback, .complete, .failed]

end SequenceState

/-- The operations that need a fitting state. -/
inductive SequenceOperation where
  | start
  | acknowledge
  | updateResponse
  | updateCallback
  deriving DecidableEq, Inhabited

/-- An operation in words. -/
def SequenceOperation.describe : SequenceOperation → String
  | .start => "start the sequence"
  | .acknowledge => "acknowledge the request"
  | .updateResponse => "update the response"
  | .updateCallback => "update the callback"

/-- An operation was tried in a state that it does not fit. -/
structure SequenceError where
  state : SequenceState
  operation : SequenceOperation
  deriving DecidableEq

/-- The wording of a sequence error. -/
def SequenceError.message (e : SequenceError) : String :=
  "Illegal state transition: cannot " ++ e.operation.describe ++ " in state " ++ e.state.name

/-- What the holder of a completion signal would learn from it. -/
inductive Signal where
  /-- Nothing yet. -/
  | waiting
  /-- The terminal state. -/
  | resolved (state : SequenceState)
  /-- Nothing ever: a later signal took its place, or it was read before. -/
  | closed
  deriving DecidableEq, Inhabited

/-! ## §2. Sequences -/

/-- One request on its way; `signals` holds every signal handed out, in order. -/
structure Sequence where
  request : DataFrame
  flow : Flow
  state : SequenceState
  attempt : UInt32
  maxRetries : UInt32
  response : Option Command
  callback : Option Command
  signals : List Signal
  deriving DecidableEq

/-- How often a request is sent unless something else is asked for. -/
def defaultMaxRetries : UInt32 := 3

namespace Sequence

/-- A request that has not been sent. -/
def new (request : DataFrame) (flow : Flow) (maxRetries : UInt32) : Sequence where
  request := request
  flow := flow
  state := .pending
  attempt := 1
  maxRetries := maxRetries
  response := none
  callback := none
  signals := []

/-- The command id of the request. -/
def commandId (s : Sequence) : UInt8 := s.request.commandId

/-- Whether the attempts allow the request to be sent. -/
def canTransmit (s : Sequence) : Bool := s.attempt ≤ s.maxRetries

/-- Whether nothing more will happen. -/
def isTerminal (s : Sequence) : Bool := s.state.isTerminal

/-! ## §3. Signals -/

/-- A terminal state reaches the signal that waits for it. -/
def resolveWith (state : SequenceState) : Signal → Signal
  | .waiting => .resolved state
  | signal => signal

/-- A signal that still waits gives way to a later one. -/
def supersede : Signal → Signal
  | .waiting => .closed
  | signal => signal

/-- Enters a state; a terminal one resolves the waiting signal. -/
def enter (s : Sequence) (state : SequenceState) : Sequence :=
  if state.isTerminal then
    { s with state := state, signals := s.signals.map (resolveWith state) }
  else { s with state := state }

/-- Hands out a signal; its number is the count of those handed out before.
    In a terminal state it is resolved at once. -/
def completion (s : Sequence) : Nat × Sequence :=
  (s.signals.length,
    if s.isTerminal then { s with signals := s.signals ++ [.resolved s.state] }
    else { s with signals := s.signals.map supersede ++ [.waiting] })

/-- Reads a signal; a terminal state can be read once. -/
def poll (s : Sequence) (signal : Nat) : Signal × Sequence :=
  match s.signals[signal]? with
  | some (.resolved state) =>
    (.resolved state, { s with signals := s.signals.set signal .closed })
  | some other => (other, s)
  | none => (.closed, s)

/-! ## §4. Operations -/

/-- The error of an operation in the present state. -/
def illegal (s : Sequence) (operation : SequenceOperation) : Except SequenceError Sequence :=
  .error ⟨s.state, operation⟩

/-- The request is being sent. -/
def start (s : Sequence) : Except SequenceError Sequence :=
  if s.state ≠ .pending then s.illegal .start
  else
    match s.flow with
    | .unacknowledged => .ok (s.enter .complete)
    | _ => .ok (s.enter .waitingForAck)

/-- The ACK of the request has come. -/
def acknowledge (s : Sequence) : Except SequenceError Sequence :=
  if s.state ≠ .waitingForAck then s.illegal .acknowledge
  else
    match s.flow with
    | .acknowledged => .ok (s.enter .complete)
    | .response | .responseAndCallback => .ok (s.enter .waitingForResponse)
    | .callback => .ok (s.enter .waitingForCallback)
    | .unacknowledged | .unsolicited => s.illegal .acknowledge

/-- The response has come; the ACK before it may have been lost. -/
def updateResponse (s : Sequence) (response : Command) : Except SequenceError Sequence :=
  if s.state ≠ .waitingForResponse ∧ s.state ≠ .waitingForAck then s.illegal .updateResponse
  else
    match s.flow with
    | .response => .ok ({ s with response := some response }.enter .complete)
    | .responseAndCallback =>
      .ok ({ s with response := some response }.enter .waitingForCallback)
    | _ => s.illegal .updateResponse

/-- The callback has come. -/
def updateCallback (s : Sequence) (callback : Command) : Except SequenceError Sequence :=
  if s.state ≠ .waitingForCallback then s.illegal .updateCallback
  else
    match s.flow with
    | .callback | .responseAndCallback =>
      .ok ({ s with callback := some callback }.enter .complete)
    | _ => s.illegal .updateCallback

/-- The request is to be sent once more.  What has been received stays. -/
def retry (s : Sequence) : Sequence :=
  { s with attempt := s.attempt + 1, state := .pending }

/-- The sequence has failed. -/
def fail (s : Sequence) : Sequence := s.enter .failed

end Sequence

end ZWaveHost
