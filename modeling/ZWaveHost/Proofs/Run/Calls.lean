/-
  ZWaveHost.Proofs.Run.Calls — the callers that are on their way.

  Every call has a ticket.  Until its caller has a result, an errand of the
  call waits in line or has the turn (`Host.pending`); what has been sent for
  it and what came of it stands in the box (`Host.sent`, `Host.results`).

  Main facts: a step moves on the errand whose turn it is and leaves all other
  calls alone (`agreesOn_look`), and so does every other event
  (`agreesOn_after`); a ticket that has not been handed out is not in use
  (`Reachable.unused`).
-/
import ZWaveHost.Proofs.Run.Delivery
import ZWaveHost.Proofs.Run.Invariant

namespace ZWaveHost

/-! ## §1. Calls -/

/-- The frame that a report says was sent for a ticket. -/
def Report.sent? (ticket : Nat) : Report → Option DataFrame
  | .transmitted t frame => if t = ticket then some frame else none
  | _ => none

/-- The result that a report gives to the caller with a ticket. -/
def Report.result? (ticket : Nat) : Report → Option (Except HostError Outcome)
  | .finished t result => if t = ticket then some result else none
  | _ => none

namespace Host

/-- The errands of all callers: the one whose turn it is, and then the line. -/
def callers (h : Host) : List Errand := (h.active.map Exchange.errand).toList ++ h.waiting

/-- The errands of the caller with a ticket. -/
def pending (h : Host) (ticket : Nat) : List Errand := h.callers.filter (·.ticket = ticket)

/-- The frames that were handed to the link for a ticket. -/
def sent (h : Host) (ticket : Nat) : List DataFrame := h.outbox.filterMap (Report.sent? ticket)

/-- The results that the caller with a ticket has got. -/
def results (h : Host) (ticket : Nat) : List (Except HostError Outcome) :=
  h.outbox.filterMap (Report.result? ticket)

/-- Whoever has no errand does not have the turn. -/
theorem ticket_ne_of_pending {h : Host} {ticket : Nat} (hnone : h.pending ticket = [])
    {x : Exchange} (hactive : h.active = some x) : x.errand.ticket ≠ ticket := by
  have hcaller : x.errand ∈ h.callers := by
    unfold callers
    rw [hactive]
    exact List.mem_cons_self
  exact fun hticket => List.filter_eq_nil_iff.mp hnone _ hcaller (decide_eq_true hticket)

theorem filterMap_report {β : Type} (view : Report → Option β) (h : Host) (r : Report) :
    (h.report r).outbox.filterMap view = h.outbox.filterMap view ++ (view r).toList := by
  show (h.outbox ++ [r]).filterMap view = _
  rw [List.filterMap_append, List.filterMap_cons]
  cases view r <;> rfl

theorem sent_report (h : Host) (r : Report) (ticket : Nat) :
    (h.report r).sent ticket = h.sent ticket ++ (r.sent? ticket).toList :=
  filterMap_report _ h r

theorem results_report (h : Host) (r : Report) (ticket : Nat) :
    (h.report r).results ticket = h.results ticket ++ (r.result? ticket).toList :=
  filterMap_report _ h r

theorem results_finished (h : Host) (ticket : Nat) (result : Except HostError Outcome) :
    (h.report (.finished ticket result)).results ticket = h.results ticket ++ [result] := by
  have hself : (Report.finished ticket result).result? ticket = some result := if_pos rfl
  rw [results_report, hself]
  rfl

/-- Two hosts that hold the same for a ticket. -/
structure AgreesOn (ticket : Nat) (h h' : Host) : Prop where
  pending : h'.pending ticket = h.pending ticket
  sent : h'.sent ticket = h.sent ticket
  results : h'.results ticket = h.results ticket

theorem AgreesOn.refl (ticket : Nat) (h : Host) : AgreesOn ticket h h := ⟨rfl, rfl, rfl⟩

/-- The callers stay, and nothing is reported but deliveries. -/
structure SameCalls (h h' : Host) : Prop where
  active : h'.active = h.active
  waiting : h'.waiting = h.waiting
  nextTicket : h'.nextTicket = h.nextTicket
  outbox : ∃ offers : List (Subscription.Handle × Command),
    h'.outbox = h.outbox ++ offers.map .ofDelivery

namespace SameCalls

variable {h h' : Host}

theorem of_outbox (hactive : h'.active = h.active) (hwaiting : h'.waiting = h.waiting)
    (hticket : h'.nextTicket = h.nextTicket) (houtbox : h'.outbox = h.outbox) :
    h.SameCalls h' :=
  ⟨hactive, hwaiting, hticket, [], houtbox.trans (List.append_nil _).symm⟩

theorem refl (h : Host) : h.SameCalls h := of_outbox rfl rfl rfl rfl

theorem callers (hs : h.SameCalls h') : h'.callers = h.callers := by
  unfold Host.callers
  rw [hs.active, hs.waiting]

/-- No delivery is sent or gives a result. -/
theorem agreesOn (hs : h.SameCalls h') (ticket : Nat) : AgreesOn ticket h h' := by
  obtain ⟨offers, houtbox⟩ := hs.outbox
  have hquiet {β : Type} (view : Report → Option β) (hview : ∀ d, view (.ofDelivery d) = none) :
      h'.outbox.filterMap view = h.outbox.filterMap view := by
    have hnone : (offers.map Report.ofDelivery).filterMap view = [] := by
      rw [List.filterMap_map, List.filterMap_eq_nil_iff]
      exact fun d _ => hview d
    rw [houtbox, List.filterMap_append, hnone, List.append_nil]
  refine ⟨?_, hquiet _ fun _ => rfl, hquiet _ fun _ => rfl⟩
  unfold Host.pending
  rw [hs.callers]

end SameCalls

theorem sameCalls_deliverAll (h : Host) : h.SameCalls h.deliverAll := by
  cases hqueue : h.queue with
  | none =>
    unfold deliverAll
    rw [hqueue]
    exact .refl h
  | some commands =>
    rw [deliverAll_eq_of_queue hqueue]
    exact ⟨rfl, rfl, rfl, _, rfl⟩

theorem sameCalls_deliverNext (h : Host) : h.SameCalls h.deliverNext := by
  have hstill : h.queue = none ∨ h.queue = some [] → h.SameCalls h.deliverNext := by
    intro hempty
    unfold deliverNext
    rcases hempty with hempty | hempty <;>
    · rw [hempty]
      exact .refl h
  cases hqueue : h.queue with
  | none => exact hstill (.inl hqueue)
  | some commands =>
    cases commands with
    | nil => exact hstill (.inr hqueue)
    | cons command rest =>
      rw [deliverNext_eq_of_queue hqueue]
      exact ⟨rfl, rfl, rfl, _, rfl⟩

theorem sameCalls_closeQueue (h : Host) : h.SameCalls (Adapter.closeQueue h) :=
  have hs := h.sameCalls_deliverAll
  ⟨hs.active, hs.waiting, hs.nextTicket, hs.outbox⟩

end Host

/-! ## §2. What leaves all calls alone -/

/-- An event that may move a call on. -/
def Event.MovesCalls {π : Type} : Event π → Prop
  | .look => True
  | .send _ => True
  | .abandon _ => True
  | _ => False

variable {π : Type} [Port π]

namespace Moment

/-- **Only a look, a new call and a caller that goes away** move calls on. -/
theorem sameCalls_after (m : Moment π) {event : Event π} (hmoves : ¬ event.MovesCalls) :
    m.host.SameCalls (m.after event).host := by
  cases event with
  | look => exact absurd trivial hmoves
  | send request => exact absurd trivial hmoves
  | abandon ticket => exact absurd trivial hmoves
  | receive bytes =>
    obtain ⟨_, _, _, _, heq⟩ := m.adapter.receive_host_eq bytes
    show m.adapter.host.SameCalls (m.adapter.receive bytes).host
    rw [heq]
    exact .of_outbox rfl rfl rfl rfl
  | start =>
    obtain ⟨_, _, heq⟩ := m.start_host_eq
    rw [heq]
    exact .of_outbox rfl rfl rfl rfl
  | beginStart =>
    obtain ⟨_, _, heq⟩ := m.beginStart_host_eq
    rw [heq]
    exact .of_outbox rfl rfl rfl rfl
  | endStart =>
    rcases m.endStart_host_eq with heq | heq
    · rw [heq]
      exact .refl _
    · have hs := m.host.sameCalls_closeQueue
      rw [heq]
      exact ⟨hs.active, hs.waiting, hs.nextTicket, hs.outbox⟩
  | endWait ticket => exact .refl _
  | stop =>
    show m.adapter.host.SameCalls m.adapter.stop.2.host
    unfold Adapter.stop
    split
    · have hs := Host.sameCalls_closeQueue { m.adapter.host with running := false }
      exact ⟨hs.active, hs.waiting, hs.nextTicket, hs.outbox⟩
    · exact .refl _
  | release =>
    show m.adapter.host.SameCalls m.adapter.release.host
    unfold Adapter.release
    split
    · exact .of_outbox rfl rfl rfl rfl
    · exact .refl _
  | expire =>
    show m.adapter.host.SameCalls m.adapter.expire.host
    unfold Adapter.expire
    split
    · dsimp only
      split
      · have hs := Host.sameCalls_closeQueue
          { m.adapter.host with lifetime := .gone, running := false }
        exact ⟨hs.active, hs.waiting, hs.nextTicket, hs.outbox⟩
      · exact .of_outbox rfl rfl rfl rfl
    · exact .refl _
  | dispatch => exact m.host.sameCalls_deliverNext
  | pass milliseconds => exact .refl _
  | subscribe kind accepts => exact .of_outbox rfl rfl rfl rfl
  | unsubscribe handle => exact .of_outbox rfl rfl rfl rfl
  | nextSession => exact .of_outbox rfl rfl rfl rfl
  | port change => exact .refl _

end Moment

/-! ## §3. Steps -/

namespace Host

open Adapter

variable {h : Host} {now : Nat} {e : Errand} {move : Move}

/-- **Whoever takes a step is the first of the callers.** -/
theorem callers_of_nextMove (hmove : h.nextMove? now = some (e, move)) :
    h.callers = e :: h.mover.waiting := by
  unfold nextMove? at hmove
  unfold callers mover
  cases hactive : h.active with
  | some x =>
    simp only [hactive] at hmove ⊢
    have hattend : h.attend.waiting = h.waiting := by
      unfold attend
      split <;> rfl
    split at hmove
    · obtain ⟨rfl, _⟩ := Prod.mk.inj (Option.some.inj hmove)
      rw [hattend]
      rfl
    · cases hmove
  | none =>
    cases hwaiting : h.waiting with
    | nil =>
      simp only [hactive, hwaiting] at hmove
      cases hmove
    | cons first rest =>
      simp only [hactive, hwaiting] at hmove
      obtain ⟨rfl, _⟩ := Prod.mk.inj (Option.some.inj hmove)
      rfl

/-- A caller that waits on keeps its turn. -/
theorem mover_of_rest (hmove : h.nextMove? now = some (e, .rest)) :
    h.mover.active = h.active ∧ h.mover.waiting = h.waiting := by
  unfold nextMove? at hmove
  unfold mover
  cases hactive : h.active with
  | some x =>
    dsimp only
    unfold attend
    split
    · exact ⟨hactive, rfl⟩
    · exact ⟨hactive, rfl⟩
  | none =>
    cases hwaiting : h.waiting with
    | nil =>
      simp only [hactive, hwaiting] at hmove
      cases hmove
    | cons first rest =>
      -- a turn does not begin with waiting on
      simp only [hactive, hwaiting] at hmove
      exact absurd (Prod.mk.inj (Option.some.inj hmove)).2 (Sequence.attemptMove_ne_rest _)

theorem recovery?_ticket {outcome : Outcome} {reset : Errand}
    (hreset : recovery? h e outcome = some reset) : reset.ticket = e.ticket := by
  unfold recovery? at hreset
  split at hreset
  · split at hreset
    · rw [← Option.some.inj hreset]
    · cases hreset
  · cases hreset

/-- A result is reported to nobody else. -/
theorem agreesOn_report_finished {t ticket : Nat} (hother : t ≠ ticket) (h : Host)
    (result : Except HostError Outcome) : AgreesOn ticket h (h.report (.finished t result)) where
  pending := rfl
  sent := (h.sent_report _ ticket).trans (List.append_nil _)
  results := by
    have hnone : (Report.finished t result).result? ticket = none := if_neg hother
    rw [results_report, hnone]
    exact List.append_nil _

/-- The end of an exchange concerns its own call only. -/
theorem agreesOn_conclude {ticket : Nat} (hother : e.ticket ≠ ticket) (h : Host)
    (result : Except HostError Outcome) : AgreesOn ticket h (conclude h e result) := by
  unfold conclude
  split
  · exact agreesOn_report_finished hother h _
  · exact agreesOn_report_finished hother h _
  · split
    · next reset hreset =>
      refine ⟨?_, rfl, rfl⟩
      have hticket : reset.ticket ≠ ticket := by rw [recovery?_ticket hreset]; exact hother
      show (_ ++ (h.waiting ++ [reset])).filter _ = (_ ++ h.waiting).filter _
      rw [← List.append_assoc, List.filter_append,
        List.filter_cons_of_neg (by simpa using hticket)]
      exact List.append_nil _
    · exact agreesOn_report_finished hother h _

end Host

namespace Moment

open Adapter

variable {m : Moment π} {e : Errand} {move : Move}

/-- **A step moves one call on**, and no other. -/
theorem agreesOn_look {ticket : Nat} (hmove : m.host.nextMove? m.now = some (e, move))
    (hother : e.ticket ≠ ticket) : Host.AgreesOn ticket m.host (m.after .look).host := by
  -- whoever takes the step is first, so all others stand in the line behind
  have hcallers := Host.callers_of_nextMove hmove
  obtain ⟨waiting, permit, hmover⟩ := m.host.mover_eq
  have hpending : m.host.pending ticket = m.host.mover.waiting.filter (·.ticket = ticket) := by
    unfold Host.pending
    rw [hcallers, List.filter_cons_of_neg (by simpa using hother)]
  have houtbox : m.host.mover.outbox = m.host.outbox := by rw [hmover]
  rw [(look_of_nextMove hmove).1]
  cases move with
  | rest =>
    obtain ⟨hactive, hwaiting⟩ := Host.mover_of_rest hmove
    refine ⟨?_, congrArg (List.filterMap _) houtbox, congrArg (List.filterMap _) houtbox⟩
    show (_ ++ m.host.mover.waiting).filter _ = _
    rw [hwaiting]
    show (((m.host.mover.active).map _).toList ++ _).filter _ = _
    rw [hactive]
    rfl
  | transmit s =>
    have hnone : (Report.transmitted e.ticket s.request).sent? ticket = none := if_neg hother
    refine ⟨?_, ?_, ?_⟩
    · rw [hpending]
      exact List.filter_cons_of_neg (by simpa using hother)
    · refine (Host.sent_report _ _ ticket).trans ?_
      rw [hnone]
      exact (List.append_nil _).trans (congrArg (List.filterMap _) houtbox)
    · refine (Host.results_report _ _ ticket).trans ?_
      exact (List.append_nil _).trans (congrArg (List.filterMap _) houtbox)
  | finish result =>
    have hended := Host.agreesOn_conclude hother m.host.left result
    refine ⟨hended.pending.trans hpending.symm, ?_, ?_⟩
    · exact hended.sent.trans (congrArg (List.filterMap _) houtbox)
    · exact hended.results.trans (congrArg (List.filterMap _) houtbox)

theorem nextTicket_look (m : Moment π) :
    (m.after .look).host.nextTicket = m.host.nextTicket := by
  obtain ⟨_, _, hmover⟩ := m.host.mover_eq
  have hticket : m.host.mover.nextTicket = m.host.nextTicket := by rw [hmover]
  cases hmove : m.host.nextMove? m.now with
  | none => rw [(look_of_none hmove).1]
  | some next =>
    obtain ⟨e, move⟩ := next
    rw [(look_of_nextMove hmove).1]
    cases move with
    | rest => exact hticket
    | transmit s => exact hticket
    | finish result =>
      obtain ⟨_, _, heq⟩ := conclude_eq m.host.left e result
      show (conclude m.host.left e result).nextTicket = _
      rw [heq]
      exact hticket

/-! ## §4. Coming and going -/

/-- A caller that goes away takes its errands with it. -/
theorem callers_abandon (m : Moment π) (ticket : Nat) :
    (m.after (.abandon ticket)).host.callers = m.host.callers.filter (·.ticket ≠ ticket) := by
  show ((m.host.active.filter _).map _).toList ++ m.host.waiting.filter _
    = ((m.host.active.map _).toList ++ m.host.waiting).filter _
  -- the turn is given up on the same condition as a place in line
  rw [List.filter_append]
  congr 1
  cases m.host.active with
  | none => rfl
  | some x =>
    show _ = [x.errand].filter _
    rw [Option.filter_some]
    by_cases hother : x.errand.ticket ≠ ticket
    · rw [if_pos (decide_eq_true hother), List.filter_cons_of_pos (by simpa using hother)]
      rfl
    · rw [if_neg (by simpa using hother), List.filter_cons_of_neg (by simpa using hother)]
      rfl

theorem pending_abandon_self (m : Moment π) (ticket : Nat) :
    (m.after (.abandon ticket)).host.pending ticket = [] := by
  unfold Host.pending
  rw [callers_abandon, List.filter_filter, List.filter_eq_nil_iff]
  intro e _
  simp

theorem agreesOn_abandon (m : Moment π) {t ticket : Nat} (hother : t ≠ ticket) :
    Host.AgreesOn ticket m.host (m.after (.abandon t)).host where
  pending := by
    unfold Host.pending
    rw [callers_abandon, List.filter_filter]
    refine List.filter_congr fun e _ => ?_
    by_cases hticket : e.ticket = ticket
    · simp [hticket, hother.symm]
    · simp [hticket]
  sent := rfl
  results := rfl

/-- A request that is refused. -/
theorem send_of_error {request : Request} {error : HostError}
    (hexamined : examine m.host request = .error error) :
    (m.after (.send request)).host = { m.host with nextTicket := m.host.nextTicket + 1 }.report
      (.finished m.host.nextTicket (.error error)) := by
  show (m.adapter.send request).2.host = _
  unfold Adapter.send
  rw [show examine m.adapter.host request = .error error from hexamined]
  rfl

/-- A request that is sent takes its place in line. -/
theorem send_of_ok {request : Request} {frame : DataFrame} {flow : Flow}
    (hexamined : examine m.host request = .ok (frame, flow)) :
    (m.after (.send request)).host = { m.host with
      nextTicket := m.host.nextTicket + 1
      waiting := m.host.waiting ++ [⟨m.host.nextTicket, frame, flow, none⟩] } := by
  show (m.adapter.send request).2.host = _
  unfold Adapter.send
  rw [show examine m.adapter.host request = .ok (frame, flow) from hexamined]
  rfl

/-- A new call gets the next ticket. -/
theorem agreesOn_send (m : Moment π) (request : Request) {ticket : Nat}
    (hother : m.host.nextTicket ≠ ticket) :
    Host.AgreesOn ticket m.host (m.after (.send request)).host := by
  cases hexamined : examine m.host request with
  | error error =>
    rw [send_of_error hexamined]
    have hreported := Host.agreesOn_report_finished hother
      { m.host with nextTicket := m.host.nextTicket + 1 } (.error error)
    exact ⟨hreported.pending, hreported.sent, hreported.results⟩
  | ok sendable =>
    rw [send_of_ok hexamined]
    refine ⟨?_, rfl, rfl⟩
    show (_ ++ (m.host.waiting ++ [_])).filter _ = (_ ++ m.host.waiting).filter _
    rw [← List.append_assoc, List.filter_append,
      List.filter_cons_of_neg (by simpa using hother)]
    exact List.append_nil _

theorem nextTicket_send (m : Moment π) (request : Request) :
    (m.after (.send request)).host.nextTicket = m.host.nextTicket + 1 := by
  cases hexamined : examine m.host request with
  | error error => rw [send_of_error hexamined]; rfl
  | ok sendable => rw [send_of_ok hexamined]

/-- A call hands out its ticket. -/
theorem issued_send (m : Moment π) (request : Request) :
    m.host.nextTicket < (m.after (.send request)).host.nextTicket := by
  rw [nextTicket_send]
  exact Nat.lt_succ_self _

theorem nextTicket_le_after (m : Moment π) (event : Event π) :
    m.host.nextTicket ≤ (m.after event).host.nextTicket := by
  by_cases hmoves : event.MovesCalls
  · cases event with
    | look => exact Nat.le_of_eq m.nextTicket_look.symm
    | send request => rw [nextTicket_send]; exact Nat.le_succ _
    | abandon ticket => exact Nat.le_refl _
    | _ => exact hmoves.elim
  · exact Nat.le_of_eq (m.sameCalls_after hmoves).nextTicket.symm

theorem nextTicket_le_run (m : Moment π) (events : List (Event π)) :
    m.host.nextTicket ≤ (m.run events).host.nextTicket := by
  induction events generalizing m with
  | nil => exact Nat.le_refl _
  | cons event rest ih => exact Nat.le_trans (m.nextTicket_le_after event) (ih (m.after event))

/-! ## §5. Tickets -/

/-- The event is a step of the caller with a ticket. -/
def Steps (m : Moment π) (ticket : Nat) (event : Event π) : Prop :=
  event = .look ∧ ∃ e move, m.host.nextMove? m.now = some (e, move) ∧ e.ticket = ticket

/-- **A call is moved on by the steps of its caller only**, once it is made and
    as long as its caller stays. -/
theorem agreesOn_after {ticket : Nat} {event : Event π} (hspares : event.Spares ticket)
    (hissued : ∀ request, event = .send request → m.host.nextTicket ≠ ticket)
    (hother : ¬ m.Steps ticket event) :
    Host.AgreesOn ticket m.host (m.after event).host := by
  by_cases hmoves : event.MovesCalls
  · cases event with
    | look =>
      cases hmove : m.host.nextMove? m.now with
      | none =>
        rw [(look_of_none hmove).1]
        exact .refl ticket m.host
      | some next =>
        obtain ⟨e, move⟩ := next
        exact agreesOn_look hmove fun hticket => hother ⟨rfl, e, move, hmove, hticket⟩
    | send request => exact m.agreesOn_send request (hissued request rfl)
    | abandon t => exact m.agreesOn_abandon hspares
    | _ => exact hmoves.elim
  · exact (m.sameCalls_after hmoves).agreesOn ticket

end Moment

/-- Only its own going away concerns a caller. -/
theorem Event.eq_abandon_of_not_spares {π : Type} {ticket : Nat} {event : Event π}
    (hgone : ¬ event.Spares ticket) : event = .abandon ticket := by
  cases event with
  | abandon t => exact congrArg Event.abandon (Decidable.not_not.mp hgone)
  | _ => exact absurd trivial hgone

/-- A ticket that is not in use. -/
structure Host.Unused (ticket : Nat) (h : Host) : Prop where
  pending : h.pending ticket = []
  sent : h.sent ticket = []
  results : h.results ticket = []

namespace Moment

theorem unused_of_agreesOn {ticket : Nat} {h h' : Host} (hu : h.Unused ticket)
    (hagrees : Host.AgreesOn ticket h h') : h'.Unused ticket :=
  ⟨hagrees.pending.trans hu.pending, hagrees.sent.trans hu.sent,
    hagrees.results.trans hu.results⟩

omit [Port π] in
/-- Nobody takes a step for a ticket that has no errand. -/
theorem not_steps_of_pending {m : Moment π} {ticket : Nat} (hnone : m.host.pending ticket = [])
    (event : Event π) : ¬ m.Steps ticket event := by
  rintro ⟨_, e, move, hmove, hticket⟩
  unfold Host.pending at hnone
  rw [Host.callers_of_nextMove hmove, List.filter_cons_of_pos (by simpa using hticket)] at hnone
  cases hnone

/-- **A caller without an errand** gets no further result. -/
theorem settled_after {m : Moment π} {ticket : Nat} (hissued : ticket < m.host.nextTicket)
    (hnone : m.host.pending ticket = []) (event : Event π) :
    (m.after event).host.pending ticket = []
      ∧ (m.after event).host.results ticket = m.host.results ticket := by
  by_cases hspares : event.Spares ticket
  · have hagrees := agreesOn_after hspares (fun _ _ => (Nat.ne_of_lt hissued).symm)
      (not_steps_of_pending hnone event)
    exact ⟨hagrees.pending.trans hnone, hagrees.results⟩
  · obtain rfl := Event.eq_abandon_of_not_spares hspares
    exact ⟨m.pending_abandon_self ticket, rfl⟩

/-- **A ticket that has not been handed out is not in use.** -/
theorem Reachable.unused {m : Moment π} (hm : m.Reachable) {ticket : Nat}
    (hunissued : m.host.nextTicket ≤ ticket) : m.host.Unused ticket := by
  refine hm.induction
    (P := fun m => ∀ ticket, m.host.nextTicket ≤ ticket → m.host.Unused ticket)
    (fun _ _ _ _ _ _ _ => ⟨rfl, rfl, rfl⟩) ?_ ticket hunissued
  intro m event ih ticket hunissued
  -- it had not been handed out before the event either
  have hu := ih ticket (Nat.le_trans (m.nextTicket_le_after event) hunissued)
  by_cases hspares : event.Spares ticket
  · refine unused_of_agreesOn hu
      (agreesOn_after hspares ?_ (not_steps_of_pending hu.pending event))
    rintro request rfl
    -- the next ticket is handed out now
    rw [nextTicket_send] at hunissued
    exact Nat.ne_of_lt hunissued
  · obtain rfl := Event.eq_abandon_of_not_spares hspares
    exact ⟨m.pending_abandon_self ticket, hu.sent, hu.results⟩

/-- The next ticket is not in use. -/
theorem Reachable.unused_next {m : Moment π} (hm : m.Reachable) :
    m.host.Unused m.host.nextTicket :=
  hm.unused (Nat.le_refl _)

end Moment

end ZWaveHost
