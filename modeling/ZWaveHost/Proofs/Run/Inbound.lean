/-
  ZWaveHost.Proofs.Run.Inbound — what a received frame does to a host.

  Whatever comes in, a host changes only in its queue, its request in flight
  and its rejections (`accept_counts_eq`).  What becomes of the request in
  flight is one of five things (`accept_hears`), and rejections are counted
  only for a NAK or CAN, where they matter (`accept_rejections`).

  Main fact: what every frame preserves, every chunk preserves, together with
  the log of what was heard (`receive_induction`).
-/
import ZWaveHost.Proofs.Run.Event
import ZWaveHost.Proofs.Sequence.Transition

namespace ZWaveHost

variable {π : Type} [Port π]

/-! ## §1. Chunks -/

namespace Link

variable {σ τ : Type}

/-- Two ways to deliver frames that agree frame by frame agree chunk by chunk. -/
theorem receive_map (view : σ → τ) {deliver : Frame → Link π × σ → Link π × σ}
    {deliver' : Frame → Link π × τ → Link π × τ}
    (hview : ∀ frame l s, Prod.map id view (deliver frame (l, s)) = deliver' frame (l, view s))
    (bytes : List UInt8) (l : Link π) (s : σ) :
    Prod.map id view (receive deliver bytes (l, s)) = receive deliver' bytes (l, view s) := by
  induction bytes generalizing l s with
  | nil => rfl
  | cons byte rest ih =>
    unfold receive
    rcases l.receiveByte byte with ⟨reception, l⟩
    cases reception with
    | nothing => exact ih l s
    | frame frame =>
      -- both go on from the same link, and their states still agree
      have hdeliver := hview frame l s
      rcases hd : deliver frame (l, s) with ⟨l2, s2⟩
      rw [hd] at hdeliver
      simp only [hd, ← hdeliver, Prod.map, id]
      exact ih l2 s2
    | malformed error => rfl

/-- What every delivery preserves, a chunk preserves. -/
theorem receive_preserves {P : σ → Prop} {deliver : Frame → Link π × σ → Link π × σ}
    (hstep : ∀ frame l s, P s → P (deliver frame (l, s)).2) (bytes : List UInt8) (l : Link π)
    (s : σ) (hs : P s) : P (receive deliver bytes (l, s)).2 := by
  induction bytes generalizing l s with
  | nil => exact hs
  | cons byte rest ih =>
    unfold receive
    rcases l.receiveByte byte with ⟨reception, l⟩
    cases reception with
    | nothing => exact ih l s hs
    | frame frame => exact ih _ _ (hstep frame l s hs)
    | malformed error => exact hs

end Link

/-- A frame is accepted, and something is noted of it. -/
def Host.acceptNoting {ν : Type} (note : Host → Frame → List ν) (frame : Frame)
    (s : Link π × Host × List ν) : Link π × Host × List ν :=
  let (l, h) := Host.accept frame (s.1, s.2.1)
  (l, h, s.2.2 ++ note s.2.1 frame)

/-- What is noted of the frames in a chunk of bytes. -/
def Adapter.noted {ν : Type} (a : Adapter π) (note : Host → Frame → List ν)
    (bytes : List UInt8) : List ν :=
  if a.host.lifetime = .gone then []
  else (Link.receive (Host.acceptNoting note) bytes (a.link, a.host, [])).2.2

/-- The notes do not disturb the host. -/
theorem Host.receive_acceptNoting {ν : Type} (note : Host → Frame → List ν) (bytes : List UInt8)
    (l : Link π) (h : Host) (notes : List ν) :
    (Link.receive (Host.acceptNoting note) bytes (l, h, notes)).2.1
      = (Link.receive Host.accept bytes (l, h)).2 := by
  have hview : Prod.map id Prod.fst (Link.receive (Host.acceptNoting note) bytes (l, h, notes))
      = Link.receive Host.accept bytes (l, h) :=
    Link.receive_map Prod.fst (fun _ _ _ => rfl) bytes l (h, notes)
  rw [← hview]
  rfl

/-- **What every frame preserves, every chunk preserves**, with what is noted. -/
theorem Adapter.noted_induction {ν : Type} {note : Host → Frame → List ν}
    {P : Host → List ν → Prop} {a : Adapter π} {log : List ν} (bytes : List UInt8)
    (hbase : P a.host log)
    (hstep : ∀ frame (l : Link π) h log, P h log →
      P (Host.accept frame (l, h)).2 (log ++ note h frame)) :
    P (a.receive bytes).host (log ++ a.noted note bytes) := by
  unfold Adapter.receive Adapter.noted
  by_cases hgone : a.host.lifetime = .gone
  · -- nobody listens any more
    simp only [hgone, if_true, List.append_nil]
    exact hbase
  · simp only [hgone, if_false]
    rw [← Host.receive_acceptNoting note bytes a.link a.host []]
    refine Link.receive_preserves (P := fun s : Host × List ν => P s.1 (log ++ s.2))
      ?_ bytes a.link (a.host, []) ?_
    · intro frame l s hs
      have hnext := hstep frame l s.1 (log ++ s.2) hs
      rw [List.append_assoc] at hnext
      exact hnext
    · simp only [List.append_nil]
      exact hbase

/-- **What every frame preserves, every chunk preserves**, with what was heard. -/
theorem Adapter.receive_induction {P : Host → List Happening → Prop} {a : Adapter π}
    {log : List Happening} (bytes : List UInt8) (hbase : P a.host log)
    (hstep : ∀ frame (l : Link π) h log, P h log →
      P (Host.accept frame (l, h)).2 (log ++ [.heard frame (h.takes frame)])) :
    P (a.receive bytes).host (log ++ a.heard bytes) :=
  Adapter.noted_induction bytes hbase hstep

/-! ## §2. What a frame leaves alone -/

namespace Host

theorem acknowledge_eq (h : Host) :
    ∃ inFlight, h.acknowledge = { h with inFlight := inFlight } := by
  unfold acknowledge
  split
  · exact ⟨_, rfl⟩
  split
  · split <;> exact ⟨_, rfl⟩
  · exact ⟨_, rfl⟩

/-- Whether a frame is counted as a rejection. -/
def counts (h : Host) : Frame → Bool
  | .nak => h.config.retransmitOnNak && h.waitsForAck
  | .can => h.config.retransmitOnNak && h.waitsForAck
  | _ => false

/-- A rejection that counts is counted, and leaves a permit. -/
theorem reject_eq (h : Host) :
    h.reject = { h with
      rejections := h.rejections + if h.config.retransmitOnNak && h.waitsForAck then 1 else 0
      permit := h.permit || (h.config.retransmitOnNak && h.waitsForAck) } := by
  unfold reject
  cases h.config.retransmitOnNak && h.waitsForAck with
  | true => simp
  | false => simp

theorem reject_inFlight (h : Host) : h.reject.inFlight = h.inFlight := by rw [reject_eq]

theorem enqueue_eq (command : Command) (l : Link π) (h : Host) :
    ∃ queue, (enqueue command (l, h)).2 = { h with queue := queue } := by
  unfold enqueue
  simp only
  split
  · exact ⟨_, rfl⟩
  split
  · exact ⟨_, rfl⟩
  · exact ⟨_, rfl⟩

theorem route_eq (h : Host) (kind : FrameKind) (commandId : UInt8) (flow : Flow)
    (command : Command) :
    ∃ inFlight, h.route kind commandId flow command = { h with inFlight := inFlight } := by
  unfold route
  split
  · exact ⟨_, rfl⟩
  split
  · exact ⟨_, rfl⟩
  split
  · split <;> exact ⟨_, rfl⟩
  split
  · split <;> exact ⟨_, rfl⟩
  · exact ⟨_, rfl⟩

/-- **A data frame reaches the request in flight** only if it is valid and can be read. -/
theorem acceptData_eq (f : DataFrame) (l : Link π) (h : Host) :
    ((acceptData f (l, h)).2 = h ∧ (f.isValid = false ∨ h.read? f = none))
      ∨ ∃ queue entry command, f.isValid = true ∧ h.read? f = some (entry, command)
      ∧ (acceptData f (l, h)).2
        = ({ h with queue := queue } : Host).route f.kind f.commandId entry.flow command := by
  unfold acceptData
  dsimp only
  by_cases hvalid : f.isValid = true
  · rw [if_pos hvalid]
    cases hread : h.read? f with
    | none => exact .inl ⟨rfl, .inr rfl⟩
    | some found =>
      rcases found with ⟨entry, command⟩
      rcases enqueue_eq command (l.send .ack).2 h with ⟨queue, hqueue⟩
      right
      refine ⟨queue, entry, command, hvalid, rfl, ?_⟩
      rw [← hqueue]
  · rw [if_neg hvalid]
    exact .inl ⟨rfl, .inl (Bool.eq_false_iff.mpr hvalid)⟩

/-- **A data frame is answered by its checksum alone**; else only a counter of
    the link may change. -/
theorem acceptData_link (f : DataFrame) (l : Link π) (h : Host) :
    ∃ received, (acceptData f (l, h)).1
      = { (l.send (if f.isValid then .ack else .nak)).2 with received := received } := by
  unfold acceptData
  dsimp only
  by_cases hvalid : f.isValid = true
  · rw [if_pos hvalid, if_pos hvalid]
    cases h.read? f with
    | none => exact ⟨_, rfl⟩
    | some found =>
      rcases found with ⟨entry, command⟩
      show ∃ received, (enqueue command ((l.send .ack).2, h)).1 = _
      unfold enqueue
      dsimp only
      split
      · exact ⟨_, rfl⟩
      split
      · exact ⟨_, rfl⟩
      · exact ⟨_, rfl⟩
  · rw [if_neg hvalid, if_neg hvalid]
    exact ⟨_, rfl⟩

/-- **A frame changes the queue, the request in flight and the rejections only**,
    and these go up by one, with a permit, exactly if the frame counts. -/
theorem accept_counts_eq (frame : Frame) (l : Link π) (h : Host) :
    ∃ queue inFlight, (accept frame (l, h)).2
      = { h with queue := queue, inFlight := inFlight
                 rejections := h.rejections + if h.counts frame then 1 else 0
                 permit := h.permit || h.counts frame } := by
  cases frame with
  | ack =>
    obtain ⟨inFlight, heq⟩ := acknowledge_eq h
    refine ⟨h.queue, inFlight, ?_⟩
    show h.acknowledge = _
    rw [heq]
    simp [counts]
  | nak => exact ⟨_, _, reject_eq h⟩
  | can => exact ⟨_, _, reject_eq h⟩
  | data f =>
    show ∃ queue inFlight, (acceptData f (l, h)).2 = _
    obtain ⟨heq, _⟩ | ⟨queue, entry, command, _, _, heq⟩ := acceptData_eq f l h
    · refine ⟨h.queue, h.inFlight, ?_⟩
      rw [heq]
      simp [counts]
    · obtain ⟨inFlight, hroute⟩ :=
        route_eq { h with queue := queue } f.kind f.commandId entry.flow command
      refine ⟨queue, inFlight, ?_⟩
      rw [heq, hroute]
      simp [counts]

/-- A frame changes nothing else. -/
theorem accept_eq (frame : Frame) (l : Link π) (h : Host) :
    ∃ queue inFlight rejections permit, (accept frame (l, h)).2
      = { h with queue := queue, inFlight := inFlight, rejections := rejections
                 permit := permit } := by
  obtain ⟨queue, inFlight, heq⟩ := accept_counts_eq frame l h
  exact ⟨queue, inFlight, _, _, heq⟩

/-! ## §3. What a frame does to the request in flight -/

/-- What a frame may make of the request in flight. -/
inductive Hears (h : Host) (s : Sequence) : Frame → Sequence → Prop
  | ignored {frame} (htakes : h.takes frame = false) : Hears h s frame s
  | acknowledged {t} (hok : s.acknowledge = .ok t) : Hears h s .ack t
  | answered {f entry command t} (hvalid : f.isValid = true) (hkind : f.kind = .response)
      (hid : f.commandId = s.commandId) (hread : h.read? f = some (entry, command))
      (hok : s.updateResponse command = .ok t) : Hears h s (.data f) t
  | calledBack {f entry command t} (hvalid : f.isValid = true) (hkind : f.kind = .request)
      (hid : f.commandId = s.commandId) (hread : h.read? f = some (entry, command))
      (hok : s.updateCallback command = .ok t) : Hears h s (.data f) t
  | failed {frame} (hopen : s.isTerminal = false) : Hears h s frame s.fail

variable {h : Host} {s : Sequence}

theorem acknowledge_hears (hs : h.inFlight = some s) :
    ∃ t, h.acknowledge.inFlight = some t ∧ h.Hears s .ack t := by
  unfold acknowledge
  rw [hs]
  by_cases hstate : s.state = .waitingForAck
  · simp only [hstate, if_true]
    cases hok : s.acknowledge with
    | ok t => exact ⟨t, rfl, .acknowledged hok⟩
    | error fault =>
      have hopen : s.isTerminal = false := by unfold Sequence.isTerminal; rw [hstate]; rfl
      exact ⟨s.fail, rfl, .failed hopen⟩
  · simp only [hstate, if_false]
    refine ⟨s, hs, .ignored ?_⟩
    unfold takes
    rw [hs, Option.any_some]
    unfold Sequence.acknowledge Sequence.illegal
    rw [if_pos hstate]
    rfl

theorem takes_data (hs : h.inFlight = some s) {f : DataFrame} (ht : h.takes (.data f) = true) :
    f.isValid = true ∧ f.kind = .response ∧ f.commandId = s.commandId
      ∧ ∃ entry command t, h.read? f = some (entry, command)
        ∧ s.updateResponse command = .ok t := by
  unfold takes at ht
  simp only [hs, Option.any_some, Bool.and_eq_true, decide_eq_true_eq, Option.any_eq_true] at ht
  rcases ht with ⟨⟨hvalid, hkind⟩, hid, ⟨entry, command⟩, hread, hok⟩
  cases hupdate : s.updateResponse command with
  | ok t => exact ⟨hvalid, hkind, hid.symm, entry, command, t, hread, hupdate⟩
  | error fault => rw [hupdate] at hok; cases hok

theorem route_hears (hs : h.inFlight = some s) {f : DataFrame} {entry : Entry}
    {command : Command} (queue : Option (List Command)) (hvalid : f.isValid = true)
    (hread : h.read? f = some (entry, command)) :
    ∃ t, (({ h with queue := queue } : Host).route f.kind f.commandId entry.flow command).inFlight
        = some t ∧ h.Hears s (.data f) t := by
  unfold route
  simp only [hs]
  by_cases hother : (s.commandId ≠ f.commandId || s.isTerminal) = true
  · -- the frame belongs to another command, or the sequence is over
    simp only [hother, if_true]
    refine ⟨s, rfl, .ignored ?_⟩
    rw [Bool.eq_false_iff]
    intro ht
    rcases takes_data hs ht with ⟨_, _, hid, _, _, _, _, hok⟩
    have hwaits := (Sequence.updateResponse_eq_ok_iff.mp hok).1
    have hopen : s.isTerminal = false := by
      unfold Sequence.isTerminal
      rcases hwaits with hstate | hstate <;> rw [hstate] <;> rfl
    simp [hid, hopen] at hother
  · simp only [hother, Bool.false_eq_true, if_false]
    rw [Bool.or_eq_true, decide_eq_true_eq, not_or, Bool.not_eq_true] at hother
    have hid : f.commandId = s.commandId := (Decidable.not_not.mp hother.1).symm
    have hopen : s.isTerminal = false := hother.2
    cases hkind : f.kind with
    | response =>
      cases hok : s.updateResponse command with
      | ok t => exact ⟨t, rfl, .answered hvalid hkind hid hread hok⟩
      | error fault => exact ⟨s.fail, rfl, .failed hopen⟩
    | request =>
      -- whether this is a callback is for the entry of its command to say
      by_cases hcallback : entry.flow.hasCallback = true
      · simp only [hcallback, if_true]
        cases hok : s.updateCallback command with
        | ok t => exact ⟨t, rfl, .calledBack hvalid hkind hid hread hok⟩
        | error fault => exact ⟨s.fail, rfl, .failed hopen⟩
      · simp only [hcallback, Bool.false_eq_true, if_false]
        refine ⟨s, rfl, .ignored ?_⟩
        unfold takes
        simp [hkind]

/-- **A frame makes one of five things of the request in flight.** -/
theorem accept_hears (frame : Frame) (l : Link π) (hs : h.inFlight = some s) :
    ∃ t, (accept frame (l, h)).2.inFlight = some t ∧ h.Hears s frame t := by
  have hreject : h.reject.inFlight = some s := (reject_inFlight h).trans hs
  cases frame with
  | ack => exact acknowledge_hears hs
  | nak => exact ⟨s, hreject, .ignored rfl⟩
  | can => exact ⟨s, hreject, .ignored rfl⟩
  | data f =>
    show ∃ t, (acceptData f (l, h)).2.inFlight = some t ∧ _
    rcases acceptData_eq f l h with ⟨heq, hdropped⟩ | ⟨queue, entry, command, hvalid, hread, heq⟩
    · -- a frame that is taken would have been valid and read
      rw [heq]
      refine ⟨s, hs, .ignored ?_⟩
      rw [Bool.eq_false_iff]
      intro ht
      rcases takes_data hs ht with ⟨hvalid, _, _, _, _, _, hread, _⟩
      rcases hdropped with hdropped | hdropped
      · rw [hdropped] at hvalid; cases hvalid
      · rw [hdropped] at hread; cases hread
    · rw [heq]
      exact route_hears hs queue hvalid hread

/-- No frame puts a request in flight. -/
theorem accept_inFlight_none (frame : Frame) (l : Link π) (hnone : h.inFlight = none) :
    (accept frame (l, h)).2.inFlight = none := by
  have hreject : h.reject.inFlight = none := (reject_inFlight h).trans hnone
  cases frame with
  | ack =>
    show h.acknowledge.inFlight = none
    unfold acknowledge
    rw [hnone]
    exact hnone
  | nak => exact hreject
  | can => exact hreject
  | data f =>
    show (acceptData f (l, h)).2.inFlight = none
    obtain ⟨heq, _⟩ | ⟨queue, entry, command, _, _, heq⟩ := acceptData_eq f l h
    · rw [heq]
      exact hnone
    · rw [heq]
      unfold route
      dsimp only
      rw [hnone]

/-- No frame makes it another request. -/
theorem Hears.belongs {frame : Frame} {t : Sequence} (hh : h.Hears s frame t) :
    t.request = s.request ∧ t.flow = s.flow := by
  cases hh with
  | ignored htakes => exact ⟨rfl, rfl⟩
  | acknowledged hok =>
    obtain ⟨_, next, _, rfl⟩ := Sequence.acknowledge_eq_ok_iff.mp hok
    exact ⟨s.enter_request next, s.enter_flow next⟩
  | answered hvalid hkind hid hread hok =>
    obtain ⟨_, next, _, rfl⟩ := Sequence.updateResponse_eq_ok_iff.mp hok
    exact ⟨Sequence.enter_request _ next, Sequence.enter_flow _ next⟩
  | calledBack hvalid hkind hid hread hok =>
    obtain ⟨_, _, rfl⟩ := Sequence.updateCallback_eq_ok_iff.mp hok
    exact ⟨Sequence.enter_request _ .complete, Sequence.enter_flow _ .complete⟩
  | failed hopen => exact ⟨s.enter_request .failed, s.enter_flow .failed⟩

/-- No frame changes the count of attempts. -/
theorem Hears.attempt_eq {frame : Frame} {t : Sequence} (hh : h.Hears s frame t) :
    t.attempt = s.attempt := by
  cases hh with
  | ignored htakes => rfl
  | acknowledged hok =>
    rcases Sequence.acknowledge_eq_ok_iff.mp hok with ⟨_, next, _, ht⟩
    rw [ht, Sequence.enter_attempt]
  | answered hvalid hkind hid hread hok =>
    rcases Sequence.updateResponse_eq_ok_iff.mp hok with ⟨_, next, _, ht⟩
    rw [ht, Sequence.enter_attempt]
  | calledBack hvalid hkind hid hread hok =>
    rcases Sequence.updateCallback_eq_ok_iff.mp hok with ⟨_, _, ht⟩
    rw [ht, Sequence.enter_attempt]
  | failed hopen => exact Sequence.enter_attempt s .failed

/-- **No frame leads back to the wait for the ACK**, and one that is taken
    as the ACK or the response leads out of it. -/
theorem Hears.state_ne {frame : Frame} {t : Sequence} (hh : h.Hears s frame t)
    (hpast : s.state ≠ .waitingForAck ∨ h.takes frame = true) : t.state ≠ .waitingForAck := by
  cases hh with
  | ignored htakes =>
    rcases hpast with hstate | htaken
    · exact hstate
    · rw [htakes] at htaken
      cases htaken
  | acknowledged hok =>
    rcases Sequence.acknowledge_eq_ok_iff.mp hok with ⟨_, next, hafter, ht⟩
    rw [ht, Sequence.enter_state]
    exact (Flow.afterAck?_ne hafter).2
  | answered hvalid hkind hid hread hok =>
    rcases Sequence.updateResponse_eq_ok_iff.mp hok with ⟨_, next, hafter, ht⟩
    rw [ht, Sequence.enter_state]
    rcases (Flow.afterResponse?_cases hafter).2 with hn | ⟨hn, _⟩ <;> rw [hn] <;> decide
  | calledBack hvalid hkind hid hread hok =>
    rcases Sequence.updateCallback_eq_ok_iff.mp hok with ⟨_, _, ht⟩
    rw [ht, Sequence.enter_state]
    decide
  | failed hopen =>
    rw [Sequence.fail, Sequence.enter_state]
    decide

/-- **Rejections are counted for NAK and CAN only**, where they matter at all. -/
theorem accept_rejections (frame : Frame) (l : Link π) (h : Host)
    (hne : (accept frame (l, h)).2.rejections ≠ h.rejections) :
    h.config.retransmitOnNak = true ∧ (frame = .nak ∨ frame = .can) := by
  have hcounts : h.counts frame = true := by
    by_contra hnot
    apply hne
    obtain ⟨_, _, heq⟩ := accept_counts_eq frame l h
    rw [heq]
    dsimp only
    rw [if_neg hnot, UInt64.add_zero]
  cases frame with
  | ack => cases hcounts
  | nak => exact ⟨(Bool.and_eq_true_iff.mp hcounts).1, .inl rfl⟩
  | can => exact ⟨(Bool.and_eq_true_iff.mp hcounts).1, .inr rfl⟩
  | data f => cases hcounts

end Host

end ZWaveHost
