/-
  ZWaveHost.Proofs.Sequence.Transition — when an operation on a sequence
  succeeds, and where it leads.

  Each operation fits one or two states and some of the flows.  Where it
  fits, the flow alone says which state is entered (`start_eq_ok_iff`,
  `acknowledge_eq_ok_iff`, `updateResponse_eq_ok_iff`,
  `updateCallback_eq_ok_iff`), so nothing else needs to open an operation; and
  it is never the state that is left.
-/
import ZWaveHost.Sequence

namespace ZWaveHost

/-! ## §1. Where a flow leads -/

namespace Flow

/-- The state of a request that has been sent. -/
def afterStart : Flow → SequenceState
  | .unacknowledged => .complete
  | _ => .waitingForAck

/-- The state after the ACK, if the flow has one. -/
def afterAck? : Flow → Option SequenceState
  | .acknowledged => some .complete
  | .response | .responseAndCallback => some .waitingForResponse
  | .callback => some .waitingForCallback
  | .unacknowledged | .unsolicited => none

/-- The state after the response, if the flow has one. -/
def afterResponse? : Flow → Option SequenceState
  | .response => some .complete
  | .responseAndCallback => some .waitingForCallback
  | _ => none

/-- No answer comes between the request and a state. -/
structure Direct (f : Flow) (state : SequenceState) : Prop where
  response : state = .waitingForCallback ∨ state = .complete → f.hasResponse = false
  callback : state = .complete → f.hasCallback = false

theorem direct_afterStart (f : Flow) : f.Direct f.afterStart := by
  constructor <;> cases f <;> simp [afterStart, hasResponse, hasCallback]

theorem afterStart_ne (f : Flow) : f.afterStart ≠ .pending := by
  cases f <;> simp [afterStart]

theorem direct_afterAck? {f : Flow} {next : SequenceState} (h : f.afterAck? = some next) :
    f.Direct next := by
  cases f <;> cases h <;> constructor <;> simp [hasResponse, hasCallback]

theorem afterAck?_ne {f : Flow} {next : SequenceState} (h : f.afterAck? = some next) :
    next ≠ .pending ∧ next ≠ .waitingForAck := by
  cases f <;> cases h <;> decide

/-- After the response there is a callback to come, or nothing. -/
theorem afterResponse?_cases {f : Flow} {next : SequenceState} (h : f.afterResponse? = some next) :
    f.hasResponse = true
      ∧ (next = .waitingForCallback ∨ next = .complete ∧ f.hasCallback = false) := by
  cases f <;> simp_all [afterResponse?, hasResponse, hasCallback]

end Flow

namespace Sequence

/-! ## §2. Entering a state, and handing out a signal -/

variable (s : Sequence) (state : SequenceState)

@[simp] theorem enter_state : (s.enter state).state = state := by
  unfold enter; split <;> rfl

@[simp] theorem enter_request : (s.enter state).request = s.request := by
  unfold enter; split <;> rfl

@[simp] theorem enter_flow : (s.enter state).flow = s.flow := by
  unfold enter; split <;> rfl

@[simp] theorem enter_attempt : (s.enter state).attempt = s.attempt := by
  unfold enter; split <;> rfl

@[simp] theorem enter_maxRetries : (s.enter state).maxRetries = s.maxRetries := by
  unfold enter; split <;> rfl

@[simp] theorem enter_response : (s.enter state).response = s.response := by
  unfold enter; split <;> rfl

@[simp] theorem enter_callback : (s.enter state).callback = s.callback := by
  unfold enter; split <;> rfl

theorem enter_signals :
    (s.enter state).signals
      = if state.isTerminal then s.signals.map (resolveWith state) else s.signals := by
  unfold enter; split <;> rfl

theorem enter_signals_of_not_terminal (h : state.isTerminal = false) :
    (s.enter state).signals = s.signals := by
  rw [enter_signals, h, if_neg Bool.false_ne_true]

theorem enter_signals_of_terminal (h : state.isTerminal = true) :
    (s.enter state).signals = s.signals.map (resolveWith state) := by
  rw [enter_signals, h, if_pos rfl]

@[simp] theorem completion_state : s.completion.2.state = s.state := by
  unfold completion; cases s.isTerminal <;> rfl

@[simp] theorem completion_flow : s.completion.2.flow = s.flow := by
  unfold completion; cases s.isTerminal <;> rfl

theorem completion_signals :
    s.completion.2.signals
      = if s.isTerminal then s.signals ++ [.resolved s.state]
        else s.signals.map supersede ++ [.waiting] := by
  unfold completion; cases s.isTerminal <;> rfl

theorem resolveWith_ne_waiting (signal : Signal) : resolveWith state signal ≠ .waiting := by
  cases signal <;> simp [resolveWith]

/-! ## §3. Operations that succeed -/

variable {s} {t : Sequence}

/-- **A request is sent from `pending` only**, and every flow allows it. -/
theorem start_eq_ok_iff :
    s.start = .ok t ↔ s.state = .pending ∧ t = s.enter s.flow.afterStart := by
  unfold start illegal
  by_cases hs : s.state = .pending
  · simp only [hs, ne_eq, not_true_eq_false, if_false, true_and]
    cases s.flow <;> simp only [Flow.afterStart, Except.ok.injEq, eq_comm]
  · simp [hs]

/-- **An ACK counts while it is waited for**, in a flow that has one. -/
theorem acknowledge_eq_ok_iff :
    s.acknowledge = .ok t
      ↔ s.state = .waitingForAck ∧ ∃ next, s.flow.afterAck? = some next ∧ t = s.enter next := by
  unfold acknowledge illegal
  by_cases hs : s.state = .waitingForAck
  · simp only [hs, ne_eq, not_true_eq_false, if_false, true_and]
    cases s.flow <;> simp [Flow.afterAck?, eq_comm]
  · simp [hs]

/-- **A response counts while it or the ACK is waited for**, in a flow that has one. -/
theorem updateResponse_eq_ok_iff {response : Command} :
    s.updateResponse response = .ok t
      ↔ (s.state = .waitingForResponse ∨ s.state = .waitingForAck)
        ∧ ∃ next, s.flow.afterResponse? = some next
          ∧ t = { s with response := some response }.enter next := by
  unfold updateResponse illegal
  by_cases hs : s.state = .waitingForResponse ∨ s.state = .waitingForAck
  · have hfits : ¬ (s.state ≠ .waitingForResponse ∧ s.state ≠ .waitingForAck) := by
      rcases hs with hs | hs <;> simp [hs]
    simp only [hs, if_neg hfits, true_and]
    cases s.flow <;> simp [Flow.afterResponse?, eq_comm]
  · have hother : s.state ≠ .waitingForResponse ∧ s.state ≠ .waitingForAck :=
      not_or.mp hs
    simp [hother]

/-- **A callback counts while it is waited for**, and completes the sequence. -/
theorem updateCallback_eq_ok_iff {callback : Command} :
    s.updateCallback callback = .ok t
      ↔ s.state = .waitingForCallback ∧ s.flow.hasCallback = true
        ∧ t = { s with callback := some callback }.enter .complete := by
  unfold updateCallback illegal
  by_cases hs : s.state = .waitingForCallback
  · simp only [hs, ne_eq, not_true_eq_false, if_false, true_and]
    cases s.flow <;> simp [Flow.hasCallback, eq_comm]
  · simp [hs]

/-! ## §4. Every operation that succeeds changes the state -/

theorem ne_of_state_ne (h : t.state ≠ s.state) : t ≠ s := fun heq => h (congrArg state heq)

theorem acknowledge_ne (hok : s.acknowledge = .ok t) : t ≠ s := by
  obtain ⟨hstate, next, hafter, rfl⟩ := acknowledge_eq_ok_iff.mp hok
  refine ne_of_state_ne ?_
  rw [enter_state, hstate]
  exact (Flow.afterAck?_ne hafter).2

theorem updateResponse_ne {response : Command} (hok : s.updateResponse response = .ok t) :
    t ≠ s := by
  obtain ⟨hstate, next, hafter, rfl⟩ := updateResponse_eq_ok_iff.mp hok
  refine ne_of_state_ne ?_
  rw [enter_state]
  rcases (Flow.afterResponse?_cases hafter).2 with rfl | ⟨rfl, _⟩ <;>
    rcases hstate with hstate | hstate <;> rw [hstate] <;> decide

theorem updateCallback_ne {callback : Command} (hok : s.updateCallback callback = .ok t) :
    t ≠ s := by
  obtain ⟨hstate, _, rfl⟩ := updateCallback_eq_ok_iff.mp hok
  refine ne_of_state_ne ?_
  rw [enter_state, hstate]
  decide

/-- So does a failure, unless the sequence is over. -/
theorem fail_ne (hopen : s.isTerminal = false) : s.fail ≠ s := by
  refine ne_of_state_ne ?_
  rw [fail, enter_state]
  intro hstate
  rw [isTerminal, ← hstate] at hopen
  cases hopen

end Sequence

end ZWaveHost
