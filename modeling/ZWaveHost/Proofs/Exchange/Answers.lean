/-
  ZWaveHost.Proofs.Exchange.Answers — what the sequence of an errand holds.

  A sequence in flight belongs to its errand, and its answers are where its
  state says they are: a response once it waits for its callback, both once
  it is complete, each read from a good frame that was heard since the
  request was last sent (`Sequence.Follows`).  An answer from an earlier
  attempt may still be there, but the state does not count on it.

  Main facts: every frame keeps this (`Follows.hears`), and so does sending
  the request once more (`Ready.follows_enter`).
-/
import ZWaveHost.Proofs.Run.Inbound

namespace ZWaveHost

open Adapter (isSignalled)

/-! ## §1. Signals -/

theorem isSignalled_enter_terminal (s : Sequence) {state : SequenceState}
    (h : state.isTerminal = true) : isSignalled (s.enter state) = true := by
  unfold isSignalled
  rw [Sequence.enter_signals_of_terminal s state h, List.getElem?_map, decide_eq_true_eq]
  intro hwaits
  rcases Option.map_eq_some_iff.mp hwaits with ⟨signal, _, hsignal⟩
  exact Sequence.resolveWith_ne_waiting state signal hsignal

/-- A sequence that enters a state tells its caller exactly if it is over. -/
theorem isSignalled_enter {s : Sequence} (hs : isSignalled s = false) (state : SequenceState) :
    isSignalled (s.enter state) = state.isTerminal := by
  cases h : state.isTerminal with
  | true => exact isSignalled_enter_terminal s h
  | false =>
    unfold isSignalled at hs ⊢
    rw [Sequence.enter_signals_of_not_terminal s state h]
    exact hs

/-! ## §2. Sequences that follow their errand -/

/-- A command that was read from a good frame of a kind, in answer to a request. -/
def Supplied (h : Host) (request : DataFrame) (kind : FrameKind) (heard : List Frame)
    (command : Command) : Prop :=
  ∃ f entry, .data f ∈ heard ∧ f.isValid = true ∧ f.kind = kind
    ∧ f.commandId = request.commandId ∧ h.read? f = some (entry, command)

theorem Supplied.mono {h : Host} {request : DataFrame} {kind : FrameKind}
    {heard heard' : List Frame} {command : Command} (hsub : heard ⊆ heard')
    (hc : Supplied h request kind heard command) : Supplied h request kind heard' command := by
  rcases hc with ⟨f, entry, hmem, hrest⟩
  exact ⟨f, entry, hsub hmem, hrest⟩

namespace Sequence

/-- A sequence belongs to an errand. -/
structure BelongsTo (e : Errand) (h₀ : Host) (s : Sequence) : Prop where
  request : s.request = e.request
  flow : s.flow = e.flow
  maxRetries : s.maxRetries = h₀.config.maxRetries
  noResponse : e.flow.hasResponse = false → s.response = none
  noCallback : e.flow.hasCallback = false → s.callback = none

/-- A sequence in flight, with the frames heard since its request was last sent. -/
structure Follows (e : Errand) (h₀ : Host) (heard : List Frame) (s : Sequence) : Prop
    extends BelongsTo e h₀ s where
  started : s.state ≠ .pending
  signalled : isSignalled s = s.isTerminal
  response : s.state = .waitingForCallback ∨ s.state = .complete → e.flow.hasResponse = true →
    ∃ command, s.response = some command ∧ Supplied h₀ e.request .response heard command
  callback : s.state = .complete → e.flow.hasCallback = true →
    ∃ command, s.callback = some command ∧ Supplied h₀ e.request .request heard command

variable {e : Errand} {h₀ : Host} {heard : List Frame} {s t : Sequence}

theorem BelongsTo.enter (hs : s.BelongsTo e h₀) (state : SequenceState) :
    (s.enter state).BelongsTo e h₀ where
  request := (s.enter_request state).trans hs.request
  flow := (s.enter_flow state).trans hs.flow
  maxRetries := (s.enter_maxRetries state).trans hs.maxRetries
  noResponse hflow := (s.enter_response state).trans (hs.noResponse hflow)
  noCallback hflow := (s.enter_callback state).trans (hs.noCallback hflow)

theorem Follows.unsignalled (hs : s.Follows e h₀ heard) (h : s.isTerminal = false) :
    isSignalled s = false :=
  hs.signalled.trans h

/-- A failed sequence need not hold anything. -/
theorem BelongsTo.fail (hs : s.BelongsTo e h₀) (heard : List Frame) :
    s.fail.Follows e h₀ heard where
  toBelongsTo := hs.enter .failed
  started := by rw [Sequence.fail, enter_state]; decide
  signalled := by
    rw [Sequence.fail, isSignalled_enter_terminal s rfl, isTerminal, enter_state]
    rfl
  response hstate := by
    rw [Sequence.fail, enter_state] at hstate
    rcases hstate with hstate | hstate <;> cases hstate
  callback hstate := by
    rw [Sequence.fail, enter_state] at hstate
    cases hstate

theorem Follows.mono {heard' : List Frame} (hsub : heard ⊆ heard') (hs : s.Follows e h₀ heard) :
    s.Follows e h₀ heard' where
  toBelongsTo := hs.toBelongsTo
  started := hs.started
  signalled := hs.signalled
  response hstate hflow := by
    rcases hs.response hstate hflow with ⟨command, hheld, hc⟩
    exact ⟨command, hheld, hc.mono hsub⟩
  callback hstate hflow := by
    rcases hs.callback hstate hflow with ⟨command, hheld, hc⟩
    exact ⟨command, hheld, hc.mono hsub⟩

/-- **A state may be entered** once the answers that lie before it are there. -/
theorem BelongsTo.follows_enter {next : SequenceState} (hs : s.BelongsTo e h₀)
    (hopen : isSignalled s = false) (hnext : next ≠ .pending)
    (hresponse : next = .waitingForCallback ∨ next = .complete → e.flow.hasResponse = true →
      ∃ command, s.response = some command ∧ Supplied h₀ e.request .response heard command)
    (hcallback : next = .complete → e.flow.hasCallback = true →
      ∃ command, s.callback = some command ∧ Supplied h₀ e.request .request heard command) :
    (s.enter next).Follows e h₀ heard where
  toBelongsTo := hs.enter next
  started := by rw [enter_state]; exact hnext
  signalled := by rw [isSignalled_enter hopen, isTerminal, enter_state]
  response := by rw [enter_state, enter_response]; exact hresponse
  callback := by rw [enter_state, enter_callback]; exact hcallback

/-- A state may be entered if no answer comes before it. -/
theorem BelongsTo.follows_enter_of_direct {next : SequenceState} (hs : s.BelongsTo e h₀)
    (hopen : isSignalled s = false) (hnext : next ≠ .pending) (hdirect : e.flow.Direct next) :
    (s.enter next).Follows e h₀ heard := by
  apply hs.follows_enter hopen hnext
  · intro hlater hflow
    rw [hdirect.response hlater] at hflow
    cases hflow
  · intro hcomplete hflow
    rw [hdirect.callback hcomplete] at hflow
    cases hflow

/-! ## §3. Frames -/

theorem isTerminal_eq_false_of_state {state : SequenceState} (hstate : s.state = state)
    (h : state.isTerminal = false) : s.isTerminal = false := by
  unfold isTerminal
  rw [hstate]
  exact h

theorem Follows.acknowledged (hs : s.Follows e h₀ heard) (hok : s.acknowledge = .ok t) :
    t.Follows e h₀ heard := by
  rcases acknowledge_eq_ok_iff.mp hok with ⟨hstate, next, hafter, ht⟩
  have hopen := hs.unsignalled (isTerminal_eq_false_of_state hstate rfl)
  rw [hs.flow] at hafter
  rw [ht]
  exact hs.follows_enter_of_direct hopen (Flow.afterAck?_ne hafter).1
    (Flow.direct_afterAck? hafter)

theorem Follows.answered {command : Command} (hs : s.Follows e h₀ heard)
    (hc : Supplied h₀ e.request .response heard command)
    (hok : s.updateResponse command = .ok t) : t.Follows e h₀ heard := by
  rcases updateResponse_eq_ok_iff.mp hok with ⟨hstate, next, hafter, ht⟩
  have hopen : isSignalled s = false := by
    rcases hstate with hstate | hstate
    · exact hs.unsignalled (isTerminal_eq_false_of_state hstate rfl)
    · exact hs.unsignalled (isTerminal_eq_false_of_state hstate rfl)
  rw [hs.flow] at hafter
  rcases Flow.afterResponse?_cases hafter with ⟨hr, hnext⟩
  have hheld : ({ s with response := some command } : Sequence).BelongsTo e h₀ :=
    { hs.toBelongsTo with
      noResponse := fun hflow => by rw [hr] at hflow; cases hflow }
  rw [ht]
  refine hheld.follows_enter hopen ?_ (fun _ _ => ⟨command, rfl, hc⟩) ?_
  · rcases hnext with hn | ⟨hn, _⟩ <;> rw [hn] <;> decide
  · intro hcomplete hflow
    rcases hnext with hn | ⟨_, hcallback⟩
    · rw [hn] at hcomplete
      cases hcomplete
    · rw [hcallback] at hflow
      cases hflow

theorem Follows.calledBack {command : Command} (hs : s.Follows e h₀ heard)
    (hc : Supplied h₀ e.request .request heard command)
    (hok : s.updateCallback command = .ok t) : t.Follows e h₀ heard := by
  rcases updateCallback_eq_ok_iff.mp hok with ⟨hstate, hflow, ht⟩
  have hopen := hs.unsignalled (isTerminal_eq_false_of_state hstate rfl)
  rw [hs.flow] at hflow
  have hheld : ({ s with callback := some command } : Sequence).BelongsTo e h₀ :=
    { hs.toBelongsTo with
      noCallback := fun hnone => by rw [hflow] at hnone; cases hnone }
  rw [ht]
  -- the response has been there since the callback was waited for
  exact hheld.follows_enter hopen (by decide) (fun _ => hs.response (.inl hstate))
    (fun _ _ => ⟨command, rfl, hc⟩)

/-- **Every frame keeps a sequence with its errand.** -/
theorem Follows.hears {h : Host} {frame : Frame} (hs : s.Follows e h₀ heard)
    (hregistry : h.registry = h₀.registry) (hh : h.Hears s frame t) :
    t.Follows e h₀ (heard ++ [frame]) := by
  have hlater : s.Follows e h₀ (heard ++ [frame]) := hs.mono (List.subset_append_left _ _)
  have hread (f : DataFrame) : h.read? f = h₀.read? f := by
    unfold Host.read?
    rw [hregistry]
  have hlast : frame ∈ heard ++ [frame] := List.mem_append_right _ (List.mem_singleton_self _)
  cases hh with
  | ignored htakes => exact hlater
  | acknowledged hok => exact hlater.acknowledged hok
  | @answered f entry command _ hvalid hkind hid hfound hok =>
    rw [commandId, hs.request] at hid
    rw [hread] at hfound
    exact hlater.answered ⟨f, entry, hlast, hvalid, hkind, hid, hfound⟩ hok
  | @calledBack f entry command _ hvalid hkind hid hfound hok =>
    rw [commandId, hs.request] at hid
    rw [hread] at hfound
    exact hlater.calledBack ⟨f, entry, hlast, hvalid, hkind, hid, hfound⟩ hok
  | failed hopen => exact hlater.toBelongsTo.fail _

/-! ## §4. Sending -/

/-- A sequence that is about to be sent. -/
structure Ready (e : Errand) (h₀ : Host) (s : Sequence) : Prop extends BelongsTo e h₀ s where
  pending : s.state = .pending
  unsignalled : isSignalled s = false

theorem ready_fresh (e : Errand) (h₀ : Host) : (e.fresh h₀.config.maxRetries).Ready e h₀ :=
  ⟨⟨rfl, rfl, rfl, fun _ => rfl, fun _ => rfl⟩, rfl, rfl⟩

theorem Follows.ready_retry (hs : s.Follows e h₀ heard) (hopen : s.isTerminal = false) :
    s.retry.Ready e h₀ :=
  ⟨⟨hs.request, hs.flow, hs.maxRetries, hs.noResponse, hs.noCallback⟩, rfl,
    hs.unsignalled hopen⟩

/-- **A request that has been sent counts on no answer from before.** -/
theorem Ready.follows_enter (hs : s.Ready e h₀) : (s.enter e.flow.afterStart).Follows e h₀ [] :=
  hs.toBelongsTo.follows_enter_of_direct hs.unsignalled e.flow.afterStart_ne
    e.flow.direct_afterStart

theorem Ready.isTerminal_eq (hs : s.Ready e h₀) : s.isTerminal = false :=
  isTerminal_eq_false_of_state hs.pending rfl

/-- A sequence with an attempt left is sent. -/
theorem Ready.attemptMove_of_le (hs : s.Ready e h₀) (hle : s.attempt ≤ h₀.config.maxRetries) :
    s.attemptMove = .transmit (s.enter e.flow.afterStart) := by
  have hmay : s.canTransmit = true := by
    unfold canTransmit
    rw [hs.maxRetries]
    exact decide_eq_true hle
  have hstart : s.start = .ok (s.enter e.flow.afterStart) :=
    start_eq_ok_iff.mpr ⟨hs.pending, by rw [hs.flow]⟩
  unfold attemptMove
  simp only [hs.isTerminal_eq, hmay, Bool.not_true, Bool.or_self, Bool.false_eq_true, if_false,
    hstart]

/-- The settings allow at least one attempt. -/
theorem attempt_fresh_le (e : Errand) (h₀ : Host) :
    (e.fresh h₀.config.maxRetries).attempt ≤ h₀.config.maxRetries := by
  have hne : h₀.config.maxRetries.toNat ≠ 0 := fun h0 =>
    h₀.valid.maxRetries_ne (UInt32.toNat_inj.mp h0)
  have hfirst : (e.fresh h₀.config.maxRetries).attempt.toNat = 1 := rfl
  rw [UInt32.le_iff_toNat_le]
  omega

/-- **The first attempt is always made.** -/
theorem attemptMove_fresh (e : Errand) (h₀ : Host) :
    (e.fresh h₀.config.maxRetries).attemptMove
      = .transmit ((e.fresh h₀.config.maxRetries).enter e.flow.afterStart) :=
  (ready_fresh e h₀).attemptMove_of_le (attempt_fresh_le e h₀)

/-- A sequence without an attempt left is given up. -/
theorem Ready.attemptMove_of_lt (hs : s.Ready e h₀) (hlt : h₀.config.maxRetries < s.attempt) :
    s.attemptMove = .finish (.ok s.outcome) := by
  have hmay : s.canTransmit = false := by
    unfold canTransmit
    rw [hs.maxRetries]
    exact decide_eq_false (UInt32.not_le.mpr hlt)
  unfold attemptMove
  simp only [hmay, Bool.not_false, Bool.or_true, if_true]

end Sequence

/-- The first move of an errand whose turn comes. -/
theorem Host.nextMove?_of_inLine {h : Host} (now : Nat) {e : Errand} {rest : List Errand}
    (hactive : h.active = none) (hwaiting : h.waiting = e :: rest) : h.nextMove? now
      = some (e, .transmit ((e.fresh h.config.maxRetries).enter e.flow.afterStart)) := by
  unfold Host.nextMove?
  simp only [hactive, hwaiting, Sequence.attemptMove_fresh]

end ZWaveHost
