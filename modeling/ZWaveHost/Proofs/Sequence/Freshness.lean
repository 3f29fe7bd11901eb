/-
  ZWaveHost.Proofs.Sequence.Freshness — the answers of a complete sequence
  are fresh.

  A retry clears neither the response nor the callback, so a sequence may
  carry answers from an attempt that is past.  But none of its states counts
  on them: a state behind the response is entered only by way of a response,
  and `complete` only by way of every answer of the flow, all of them since
  the last start.

  Main statement: `complete_holds_answers_since_start`.
-/
import ZWaveHost.Proofs.Sequence.Operation

namespace ZWaveHost

/-! ## §1. The states of a flow -/

/-- A flow has what a state stands for. -/
structure Flow.Admits (f : Flow) (state : SequenceState) : Prop where
  waitingForResponse : state = .waitingForResponse → f.hasResponse = true
  waitingForCallback : state = .waitingForCallback → f.hasCallback = true
  complete : state = .complete → f ≠ .unsolicited

namespace Flow

theorem admits_pending (f : Flow) : f.Admits .pending := by
  constructor <;> intro h <;> cases h

theorem admits_failed (f : Flow) : f.Admits .failed := by
  constructor <;> intro h <;> cases h

theorem admits_afterStart (f : Flow) : f.Admits f.afterStart := by
  constructor <;> cases f <;> simp [afterStart]

theorem admits_afterAck? {f : Flow} {next : SequenceState} (h : f.afterAck? = some next) :
    f.Admits next := by
  cases f <;> cases h <;> constructor <;> simp [hasResponse, hasCallback]

theorem admits_afterResponse? {f : Flow} {next : SequenceState}
    (h : f.afterResponse? = some next) : f.Admits next := by
  cases f <;> cases h <;> constructor <;> simp [hasCallback]

theorem admits_complete {f : Flow} (h : f.hasCallback = true) : f.Admits .complete := by
  constructor <;> cases f <;> simp_all [hasCallback]

end Flow

namespace Sequence

/-! ## §2. Answers and the operations that passed them in -/

/-- What a sequence holds at its state was passed in by these operations, the
    accepted ones since its last start. -/
structure AnsweredBy (since : List Operation) (s : Sequence) : Prop where
  /-- Behind the response, if the flow has one, it is there, and no other was passed in. -/
  response : s.state = .waitingForCallback ∨ s.state = .complete →
    s.response.isSome = s.flow.hasResponse ∧ responses since = s.response.toList
  noResponse : s.state = .waitingForAck ∨ s.state = .waitingForResponse → responses since = []
  callback : s.state = .complete →
    s.callback.isSome = s.flow.hasCallback ∧ callbacks since = s.callback.toList
  noCallback : s.state ≠ .complete → callbacks since = []

/-- What holds after the accepted operations of a run. -/
structure Fresh (flow : Flow) (log : List Operation) (s : Sequence) : Prop where
  flow_eq : s.flow = flow
  admits : flow.Admits s.state
  noResponse : flow.hasResponse = false → s.response = none
  noCallback : flow.hasCallback = false → s.callback = none
  /-- Unless it has failed or has not been sent, what it holds is since its last start. -/
  sent : s.state ≠ .pending → s.state ≠ .failed →
    ∃ earlier since, log = earlier ++ .start :: since ∧ .start ∉ since ∧ s.AnsweredBy since

variable {flow : Flow} {log : List Operation} {s t : Sequence}

theorem fresh_new (request : DataFrame) (flow : Flow) (maxRetries : UInt32) :
    (new request flow maxRetries).Fresh flow [] where
  flow_eq := rfl
  admits := flow.admits_pending
  noResponse := fun _ => rfl
  noCallback := fun _ => rfl
  sent := fun hpending => absurd rfl hpending

namespace Fresh

/-! ## §3. What each operation keeps -/

/-- Nothing has been passed in since a start, and nothing need have been. -/
theorem start (hs : s.Fresh flow log) (hok : s.start = .ok t) :
    t.Fresh flow (log ++ [.start]) := by
  obtain ⟨_, rfl⟩ := start_eq_ok_iff.mp hok
  have hdirect := flow.direct_afterStart
  rw [hs.flow_eq]
  constructor
  case flow_eq => rw [enter_flow]; exact hs.flow_eq
  case admits => rw [enter_state]; exact flow.admits_afterStart
  case noResponse => rw [enter_response]; exact hs.noResponse
  case noCallback => rw [enter_callback]; exact hs.noCallback
  case sent =>
    intro _ _
    refine ⟨log, [], rfl, List.not_mem_nil, ?_⟩
    constructor
    case response =>
      intro hpast
      rw [enter_state] at hpast
      have hnone := hdirect.response hpast
      rw [enter_response, enter_flow, hs.flow_eq, hs.noResponse hnone, hnone]
      exact ⟨rfl, rfl⟩
    case callback =>
      intro hcomplete
      rw [enter_state] at hcomplete
      have hnone := hdirect.callback hcomplete
      rw [enter_callback, enter_flow, hs.flow_eq, hs.noCallback hnone, hnone]
      exact ⟨rfl, rfl⟩
    case noResponse => intro _; rfl
    case noCallback => intro _; rfl

/-- The operations since the last start, once another has been accepted. -/
theorem sent_concat {op : Operation} (hs : s.Fresh flow log) (hpending : s.state ≠ .pending)
    (hfailed : s.state ≠ .failed) (hop : op ≠ .start)
    (hanswered : ∀ since, s.AnsweredBy since → t.AnsweredBy (since ++ [op])) :
    ∃ earlier since, log ++ [op] = earlier ++ .start :: since ∧ .start ∉ since
      ∧ t.AnsweredBy since := by
  obtain ⟨earlier, since, hlog, hstart, hby⟩ := hs.sent hpending hfailed
  refine ⟨earlier, since ++ [op], ?_, ?_, hanswered since hby⟩
  · rw [hlog, List.append_assoc, List.cons_append]
  · intro hmem
    rcases List.mem_append.mp hmem with hold | hnew
    · exact hstart hold
    · exact hop (List.mem_singleton.mp hnew).symm

theorem acknowledge (hs : s.Fresh flow log) (hok : s.acknowledge = .ok t) :
    t.Fresh flow (log ++ [.acknowledge]) := by
  obtain ⟨hstate, next, hafter, rfl⟩ := acknowledge_eq_ok_iff.mp hok
  rw [hs.flow_eq] at hafter
  have hdirect := Flow.direct_afterAck? hafter
  constructor
  case flow_eq => rw [enter_flow]; exact hs.flow_eq
  case admits => rw [enter_state]; exact Flow.admits_afterAck? hafter
  case noResponse => rw [enter_response]; exact hs.noResponse
  case noCallback => rw [enter_callback]; exact hs.noCallback
  case sent =>
    intro _ _
    refine hs.sent_concat (by simp [hstate]) (by simp [hstate]) (by simp) ?_
    intro since hby
    -- neither answer had been passed in while the ACK was waited for
    have hresponses := hby.noResponse (.inl hstate)
    have hcallbacks := hby.noCallback (by simp [hstate])
    constructor
    case response =>
      intro hpast
      rw [enter_state] at hpast
      have hnone := hdirect.response hpast
      rw [enter_response, enter_flow, hs.flow_eq, hs.noResponse hnone, hnone, responses_concat,
        hresponses]
      exact ⟨rfl, rfl⟩
    case callback =>
      intro hcomplete
      rw [enter_state] at hcomplete
      have hnone := hdirect.callback hcomplete
      rw [enter_callback, enter_flow, hs.flow_eq, hs.noCallback hnone, hnone, callbacks_concat,
        hcallbacks]
      exact ⟨rfl, rfl⟩
    case noResponse => intro _; rw [responses_concat, hresponses]; rfl
    case noCallback => intro _; rw [callbacks_concat, hcallbacks]; rfl

theorem updateResponse {response : Command} (hs : s.Fresh flow log)
    (hok : s.updateResponse response = .ok t) :
    t.Fresh flow (log ++ [.updateResponse response]) := by
  obtain ⟨hstate, next, hafter, rfl⟩ := updateResponse_eq_ok_iff.mp hok
  rw [hs.flow_eq] at hafter
  obtain ⟨hflow, hnext⟩ := Flow.afterResponse?_cases hafter
  have hpending : s.state ≠ .pending := by rcases hstate with h | h <;> simp [h]
  have hfailed : s.state ≠ .failed := by rcases hstate with h | h <;> simp [h]
  have hopen : s.state ≠ .complete := by rcases hstate with h | h <;> simp [h]
  constructor
  case flow_eq => rw [enter_flow]; exact hs.flow_eq
  case admits => rw [enter_state]; exact Flow.admits_afterResponse? hafter
  case noResponse => intro hnone; rw [hflow] at hnone; cases hnone
  case noCallback => rw [enter_callback]; exact hs.noCallback
  case sent =>
    intro _ _
    refine hs.sent_concat hpending hfailed (by simp) ?_
    intro since hby
    -- this is the first response since the start, for it ends the wait for one
    have hresponses := hby.noResponse hstate.symm
    have hcallbacks := hby.noCallback hopen
    constructor
    case response =>
      intro _
      rw [enter_response, enter_flow, responses_concat, hresponses]
      exact ⟨(hs.flow_eq ▸ hflow).symm, rfl⟩
    case noResponse =>
      intro hbefore
      rw [enter_state] at hbefore
      rcases hnext with rfl | ⟨rfl, _⟩ <;> simp at hbefore
    case callback =>
      intro hcomplete
      rw [enter_state] at hcomplete
      -- a flow that is complete with its response has no callback
      have hnone : flow.hasCallback = false := by
        rcases hnext with rfl | ⟨_, hnone⟩
        · cases hcomplete
        · exact hnone
      rw [enter_callback, enter_flow]
      show s.callback.isSome = s.flow.hasCallback ∧ _
      rw [hs.flow_eq, hs.noCallback hnone, hnone, callbacks_concat, hcallbacks]
      exact ⟨rfl, rfl⟩
    case noCallback => intro _; rw [callbacks_concat, hcallbacks]; rfl

theorem updateCallback {callback : Command} (hs : s.Fresh flow log)
    (hok : s.updateCallback callback = .ok t) :
    t.Fresh flow (log ++ [.updateCallback callback]) := by
  obtain ⟨hstate, hflow, rfl⟩ := updateCallback_eq_ok_iff.mp hok
  rw [hs.flow_eq] at hflow
  constructor
  case flow_eq => rw [enter_flow]; exact hs.flow_eq
  case admits => rw [enter_state]; exact Flow.admits_complete hflow
  case noResponse => rw [enter_response]; exact hs.noResponse
  case noCallback => intro hnone; rw [hflow] at hnone; cases hnone
  case sent =>
    intro _ _
    refine hs.sent_concat (by simp [hstate]) (by simp [hstate]) (by simp) ?_
    intro since hby
    have hcallbacks := hby.noCallback (by simp [hstate])
    constructor
    case response =>
      intro _
      -- it has been there since the callback was waited for
      obtain ⟨hsome, hresponses⟩ := hby.response (.inl hstate)
      rw [enter_response, enter_flow, responses_concat, hresponses]
      exact ⟨hsome, List.append_nil _⟩
    case noResponse => intro hbefore; rw [enter_state] at hbefore; simp at hbefore
    case callback =>
      intro _
      rw [enter_callback, enter_flow, callbacks_concat, hcallbacks]
      exact ⟨(hs.flow_eq ▸ hflow).symm, rfl⟩
    case noCallback => intro hopen; rw [enter_state] at hopen; exact absurd rfl hopen

/-- What has been received stays, but the state no longer stands for it. -/
theorem retry (hs : s.Fresh flow log) : s.retry.Fresh flow (log ++ [.retry]) where
  flow_eq := hs.flow_eq
  admits := flow.admits_pending
  noResponse := hs.noResponse
  noCallback := hs.noCallback
  sent := fun hpending => absurd rfl hpending

theorem fail (hs : s.Fresh flow log) : s.fail.Fresh flow (log ++ [.fail]) := by
  unfold Sequence.fail
  constructor
  case flow_eq => rw [enter_flow]; exact hs.flow_eq
  case admits => rw [enter_state]; exact flow.admits_failed
  case noResponse => rw [enter_response]; exact hs.noResponse
  case noCallback => rw [enter_callback]; exact hs.noCallback
  case sent => intro _ hfailed; rw [enter_state] at hfailed; exact absurd rfl hfailed

/-- A further signal changes neither the state nor the answers. -/
theorem completion (hs : s.Fresh flow log) : s.completion.2.Fresh flow (log ++ [.completion]) := by
  have hsame : ∃ signals, s.completion.2 = { s with signals := signals } := by
    unfold Sequence.completion
    split <;> exact ⟨_, rfl⟩
  obtain ⟨signals, hsame⟩ := hsame
  rw [hsame]
  refine ⟨hs.flow_eq, hs.admits, hs.noResponse, hs.noCallback, ?_⟩
  intro hpending hfailed
  refine hs.sent_concat hpending hfailed (by simp) ?_
  intro since hby
  have hresponses : responses (since ++ [.completion]) = responses since := by
    rw [responses_concat]; exact List.append_nil _
  have hcallbacks : callbacks (since ++ [.completion]) = callbacks since := by
    rw [callbacks_concat]; exact List.append_nil _
  constructor
  case response => rw [hresponses]; exact hby.response
  case noResponse => rw [hresponses]; exact hby.noResponse
  case callback => rw [hcallbacks]; exact hby.callback
  case noCallback => rw [hcallbacks]; exact hby.noCallback

/-- **Every accepted operation** keeps the answers fresh. -/
theorem perform {op : Operation} (hs : s.Fresh flow log) (hok : s.perform op = .ok t) :
    t.Fresh flow (log ++ [op]) := by
  cases op with
  | start => exact hs.start hok
  | acknowledge => exact hs.acknowledge hok
  | updateResponse response => exact hs.updateResponse hok
  | updateCallback callback => exact hs.updateCallback hok
  | retry => cases hok; exact hs.retry
  | fail => cases hok; exact hs.fail
  | completion => cases hok; exact hs.completion

end Fresh

/-! ## §4. All runs -/

/-- **After every run**, a sequence waits only for what its flow has, and a
    complete one holds exactly the answers of its flow, each passed in since
    its last start, where no other was.  An unsolicited one is never complete. -/
theorem complete_holds_answers_since_start (request : DataFrame) (flow : Flow)
    (maxRetries : UInt32) (ops : List Operation) :
    let first := new request flow maxRetries
    let s := first.run ops
    (s.state = .waitingForResponse → flow.hasResponse = true)
    ∧ (s.state = .waitingForCallback → flow.hasCallback = true)
    ∧ (s.state = .complete →
      s.response.isSome = flow.hasResponse ∧ s.callback.isSome = flow.hasCallback
      ∧ ∃ earlier since, first.accepted ops = earlier ++ .start :: since ∧ .start ∉ since
        ∧ responses since = s.response.toList ∧ callbacks since = s.callback.toList)
    ∧ (flow = .unsolicited → s.state ≠ .complete) := by
  intro first s
  have hfresh : s.Fresh flow (first.accepted ops) :=
    run_induction (P := fun log s => s.Fresh flow log) (fresh_new request flow maxRetries)
      (fun _ _ _ _ hs hok => hs.perform hok) ops
  refine ⟨hfresh.admits.waitingForResponse, hfresh.admits.waitingForCallback, ?_, ?_⟩
  · intro hcomplete
    obtain ⟨earlier, since, hlog, hstart, hby⟩ :=
      hfresh.sent (by simp [hcomplete]) (by simp [hcomplete])
    obtain ⟨hresponse, hresponses⟩ := hby.response (.inr hcomplete)
    obtain ⟨hcallback, hcallbacks⟩ := hby.callback hcomplete
    rw [hfresh.flow_eq] at hresponse hcallback
    exact ⟨hresponse, hcallback, earlier, since, hlog, hstart, hresponses, hcallbacks⟩
  · intro hflow hcomplete
    exact hfresh.admits.complete hcomplete hflow

/-- A request that is refused at first and accepted after a retry; the second
    response comes before its ACK. -/
def acceptedOnRetry : List Operation :=
  [.start, .acknowledge, .updateResponse (.sendDataAccepted ⟨false⟩), .retry, .start,
   .updateResponse (.sendDataAccepted ⟨true⟩), .acknowledge,
   .updateCallback (.setDefaultComplete ⟨7⟩)]

/-- The response of the first attempt is not taken for that of the second. -/
theorem complete_after_retry_holds_second_response :
    let first := new ⟨3, .request, 0x13, [], 0xEF⟩ .responseAndCallback 3
    let s := first.run acceptedOnRetry
    s.state = .complete
    ∧ s.response = some (.sendDataAccepted ⟨true⟩)
    ∧ ∃ earlier since, first.accepted acceptedOnRetry = earlier ++ .start :: since
      ∧ .start ∉ since
      ∧ responses since = [.sendDataAccepted ⟨true⟩] ∧ callbacks since = s.callback.toList := by
  intro first s
  have hcomplete : s.state = .complete := by decide
  have hresponse : s.response = some (.sendDataAccepted ⟨true⟩) := by decide
  have hfresh := complete_holds_answers_since_start ⟨3, .request, 0x13, [], 0xEF⟩
    .responseAndCallback 3 acceptedOnRetry
  obtain ⟨_, _, earlier, since, hlog, hstart, hresponses, hcallbacks⟩ := hfresh.2.2.1 hcomplete
  have hresponses : responses since = [.sendDataAccepted ⟨true⟩] := by
    rw [hresponses]
    exact congrArg Option.toList hresponse
  exact ⟨hcomplete, hresponse, earlier, since, hlog, hstart, hresponses, hcallbacks⟩

end Sequence

end ZWaveHost
