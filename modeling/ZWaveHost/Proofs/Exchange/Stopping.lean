/-
  ZWaveHost.Proofs.Exchange.Stopping — what a stop does to the callers that are
  on their way.

  A stop fails the request in flight, and no new call is taken on until the
  next start.  But the callers in line have been taken on already, and when
  their turn comes nobody asks again whether the adapter is running: they send
  their requests, and wait for answers that cannot come.

  Main facts: what is sent in the lull after a stop is sent for those who were
  in line at the stop (`Lull.adjourned`), the caller whose turn it was leaves
  at its next look, and everybody does exactly if the line was empty
  (`stop_ends_calls_iff`).
-/
import ZWaveHost.Proofs.Exchange.Progress
import ZWaveHost.Proofs.Exchange.Recovery
import ZWaveHost.Proofs.Exchange.Unacknowledged
import ZWaveHost.Proofs.Run.Lifecycle

namespace ZWaveHost

open Adapter

variable {π : Type} [Port π]

/-! ## §1. Lulls -/

/-- What may come of a moment by such events while the adapter is stopped. -/
inductive Lull (allowed : Event π → Prop) (m : Moment π) : Moment π → Prop
  | here : Lull allowed m m
  | next {m'} (before : Lull allowed m m') (event : Event π) (hallowed : allowed event)
      (hstopped : (m'.after event).host.running = false) : Lull allowed m (m'.after event)

/-- An event that brings nothing in, and that the caller with a ticket stays for. -/
def Event.Silent (ticket : Nat) : Event π → Prop
  | .receive _ => False
  | .abandon t => t ≠ ticket
  | _ => True

namespace Lull

variable {allowed : Event π → Prop} {m m' : Moment π}

theorem reachable (hl : Lull allowed m m') (hm : m.Reachable) : m'.Reachable := by
  induction hl with
  | here => exact hm
  | next before event hallowed hstopped ih => exact ih.after event

theorem running_eq (hl : Lull allowed m m') (hm : m.host.running = false) :
    m'.host.running = false := by
  cases hl with
  | here => exact hm
  | next before event hallowed hstopped => exact hstopped

end Lull

/-! ## §2. Events in a lull -/

omit [Port π] in
/-- Deliveries are no transmissions. -/
theorem Host.SameCalls.transmissions {h h' : Host} (hs : h.SameCalls h') :
    h'.transmissions = h.transmissions := by
  obtain ⟨offers, houtbox⟩ := hs.outbox
  have hnone : (offers.map Report.ofDelivery).filterMap Report.transmission? = [] := by
    rw [List.filterMap_map, List.filterMap_eq_nil_iff]
    exact fun _ _ => rfl
  unfold Host.transmissions
  rw [houtbox, List.filterMap_append, hnone, List.append_nil]

omit [Port π] in
/-- **A stopped adapter takes on no call.** -/
theorem Adapter.examine_of_stopped {h : Host} (hstopped : h.running = false) (request : Request) :
    ∃ error, examine h request = .error error
      ∧ (error = .notRunning ∨ ∃ fault, error = .frame fault) := by
  unfold examine
  cases request.toFrame with
  | error fault => exact ⟨_, rfl, .inr ⟨fault, rfl⟩⟩
  | ok frame =>
    dsimp only
    rw [hstopped]
    exact ⟨_, rfl, .inl rfl⟩

/-- A stop fails the request in flight. -/
theorem Moment.inFlight_of_stop {m : Moment π} (hrunning : m.host.running = true) :
    (m.after .stop).host.inFlight = m.host.inFlight.map Sequence.fail := by
  have hrunning : m.adapter.host.running = true := hrunning
  obtain ⟨_, _, _, heq⟩ := closeQueue_eq { m.adapter.host with running := false }
  show m.adapter.stop.2.host.inFlight = _
  unfold Adapter.stop
  rw [if_pos hrunning]
  show (closeQueue { m.adapter.host with running := false }).inFlight.map Sequence.fail = _
  rw [heq]
  rfl

/-- What is handed to the link is the request of the errand whose turn it is. -/
theorem Moment.Reachable.request_of_transmit {m : Moment π} (hm : m.Reachable) {e : Errand}
    {t : Sequence} (hmove : m.host.nextMove? m.now = some (e, .transmit t)) :
    t.request = e.request := by
  have hstarted {s : Sequence} (hs : .transmit t = s.attemptMove) : t.request = s.request := by
    obtain ⟨_, rfl⟩ := Sequence.start_eq_ok_iff.mp (Sequence.start_of_attemptMove hs.symm)
    exact s.enter_request _
  cases hactive : m.host.active with
  | some x =>
    obtain ⟨rfl, hnext⟩ := Host.nextMove?_of_active hactive hmove
    obtain ⟨h₀, log, s, hu⟩ := hm.underway hactive
    rcases Host.move_cases m.now x hu.inFlight with hfinish | ⟨hagain, -⟩ | ⟨hrest, -⟩
    · rw [hfinish] at hnext
      cases hnext
    · rw [hagain] at hnext
      exact (hstarted hnext).trans hu.follows.request
    · rw [hrest] at hnext
      cases hnext
  | none =>
    cases hwaiting : m.host.waiting with
    | nil =>
      unfold Host.nextMove? at hmove
      simp only [hactive, hwaiting] at hmove
      cases hmove
    | cons first rest =>
      rw [Host.nextMove?_of_inLine m.now hactive hwaiting] at hmove
      cases hmove
      exact Sequence.enter_request _ _

omit [Port π] in
/-- Whoever takes a step brings nobody into line. -/
theorem Host.mover_waiting_subset (h : Host) : h.mover.waiting ⊆ h.waiting := by
  unfold Host.mover
  split
  · next e rest _ hwaiting =>
    rw [hwaiting]
    exact List.subset_cons_self e rest
  · unfold Host.attend
    split <;> exact List.Subset.refl _

omit [Port π] in
/-- A stopped adapter sends no Soft Reset after a failed request. -/
theorem Adapter.recovery?_of_stopped {h : Host} (hstopped : h.running = false) (e : Errand)
    (o : Outcome) : recovery? h e o = none := by
  unfold recovery?
  exact if_neg fun hwanted => Bool.eq_false_iff.mp hstopped hwanted.2.2.2

omit [Port π] in
theorem Adapter.conclude_waiting_of_stopped {h : Host} (hstopped : h.running = false) {e : Errand}
    {result : Except HostError Outcome} : (conclude h e result).waiting = h.waiting := by
  unfold conclude
  split
  · rfl
  · rfl
  · rw [recovery?_of_stopped hstopped]
    rfl

namespace Moment

variable {m : Moment π} (hstopped : m.host.running = false)

include hstopped

/-- **Nobody comes into line and nothing is sent**, unless a caller looks up. -/
theorem line_of_stopped {event : Event π} (hother : event ≠ .look) :
    (m.after event).host.waiting ⊆ m.host.waiting
      ∧ (m.after event).host.transmissions = m.host.transmissions := by
  by_cases hmoves : event.MovesCalls
  · cases event with
    | look => exact absurd rfl hother
    | send request =>
      obtain ⟨error, hexamined, -⟩ := examine_of_stopped hstopped request
      rw [send_of_error hexamined]
      exact ⟨List.Subset.refl _, Host.transmissions_report_finished _ _ _⟩
    | abandon ticket => exact ⟨fun e he => (List.mem_filter.mp he).1, rfl⟩
    | _ => exact hmoves.elim
  · have hs := m.sameCalls_after hmoves
    exact ⟨by rw [hs.waiting]; exact List.Subset.refl _, hs.transmissions⟩

/-- **A request that is over stays in flight** for as long as its caller has the
    turn and does not look up. -/
theorem turn_of_stopped {event : Event π} (hother : event ≠ .look) {x : Exchange}
    (hturn : (m.after event).host.active = some x) :
    m.host.active = some x ∧ ∀ s, m.host.inFlight = some s → s.isTerminal = true →
      (m.after event).host.inFlight = some s := by
  by_cases hbystander : event.IsBystander
  · obtain ⟨hactive, hspares⟩ := m.active_of_after hbystander hturn
    obtain ⟨hagrees, -⟩ := m.agrees_after hactive hbystander hspares
    exact ⟨hactive, fun s hs _ => hagrees.inFlight.trans hs⟩
  · cases event with
    | look => exact absurd rfl hother
    | receive bytes =>
      obtain ⟨_, _, _, _, heq⟩ := m.adapter.receive_host_eq bytes
      have hturn : (m.adapter.receive bytes).host.active = some x := hturn
      rw [heq] at hturn
      exact ⟨hturn, fun s hs hover => Adapter.receive_of_isTerminal hs hover bytes⟩
    | stop =>
      rw [stop_of_stopped hstopped] at hturn ⊢
      exact ⟨hturn, fun s hs _ => hs⟩
    | _ => exact absurd trivial hbystander

/-- A caller that leaves a stopped adapter is followed by no Soft Reset. -/
theorem look_of_leaving {x : Exchange} {s : Sequence} (hactive : m.host.active = some x)
    (hflight : m.host.inFlight = some s) (hover : isSignalled s = true) :
    (m.after .look).host = m.host.left.report
      (.finished x.errand.ticket (.ok (x.errand.recovers.getD s.outcome))) := by
  have hmove := Host.nextMove?_of_signalled m.now hactive hflight hover
  obtain ⟨_, _, hmover⟩ := m.host.mover_eq
  have hleft : m.host.left.running = false := by
    unfold Host.left
    rw [hmover]
    exact hstopped
  have hnone := recovery?_of_stopped hleft x.errand s.outcome
  rw [(look_of_nextMove hmove).1]
  show conclude m.host.left x.errand (.ok s.outcome) = _
  cases hrecovers : x.errand.recovers with
  | none => rw [conclude_of_no_recovery hrecovers hnone]; rfl
  | some failed => rw [conclude_of_recovers hrecovers]; rfl

end Moment

/-! ## §3. What goes on in a lull -/

/-- A moment after a stop, as the callers at the stop have left it. -/
structure Adjourned (m m' : Moment π) : Prop where
  /-- Nobody has come into line. -/
  line : m'.host.waiting ⊆ m.host.waiting
  /-- What has been sent was asked for by those who were in line. -/
  sent : ∃ later, m'.host.transmissions = m.host.transmissions ++ later
    ∧ ∀ p ∈ later, ∃ e ∈ m.host.waiting, p = (e.ticket, e.request)
  /-- One of them has the turn, or whoever had it and is about to leave. -/
  turn : ∀ x, m'.host.active = some x → x.errand ∈ m.host.waiting
    ∨ m.host.active = some x ∧ ∃ s, m.host.inFlight = some s ∧ m'.host.inFlight = some s.fail

namespace Adjourned

variable {m m' : Moment π}

/-- A stop leaves the callers where they are, and fails the request in flight. -/
theorem of_stop (hm : m.Reachable) (hrunning : m.host.running = true) :
    Adjourned m (m.after .stop) := by
  have hs : m.host.SameCalls (m.after .stop).host := m.sameCalls_after nofun
  refine ⟨?_, ⟨[], ?_, nofun⟩, ?_⟩
  · rw [hs.waiting]
    exact List.Subset.refl _
  · rw [hs.transmissions, List.append_nil]
  · intro x hx
    have hbefore : m.host.active = some x := hs.active.symm.trans hx
    obtain ⟨h₀, log, s, hu⟩ := hm.underway hbefore
    refine .inr ⟨hbefore, s, hu.inFlight, ?_⟩
    rw [Moment.inFlight_of_stop hrunning, hu.inFlight]
    rfl

omit [Port π] in
/-- What is sent next is sent for somebody who was in line. -/
theorem mem_of_transmit (ha : Adjourned m m') {e : Errand} {t : Sequence}
    (hmove : m'.host.nextMove? m'.now = some (e, .transmit t)) : e ∈ m.host.waiting := by
  cases hactive : m'.host.active with
  | none =>
    have hcallers := Host.callers_of_nextMove hmove
    unfold Host.callers at hcallers
    rw [hactive] at hcallers
    have hline : m'.host.waiting = e :: m'.host.mover.waiting := hcallers
    exact ha.line (by rw [hline]; exact List.mem_cons_self)
  | some x =>
    obtain ⟨rfl, -⟩ := Host.nextMove?_of_active hactive hmove
    rcases ha.turn x hactive with hmem | ⟨-, s, -, hflight⟩
    · exact hmem
    · -- whoever had the turn leaves and sends nothing
      rw [Host.nextMove?_of_signalled m'.now hactive hflight
        (isSignalled_enter_terminal s rfl)] at hmove
      cases hmove

/-- **A caller looks up**: it waits on, sends its request, or leaves. -/
theorem look (hm' : m'.Reachable) (hstopped : m'.host.running = false) (ha : Adjourned m m') :
    Adjourned m (m'.after .look) := by
  cases hmove : m'.host.nextMove? m'.now with
  | none =>
    have hhost : (m'.after .look).host = m'.host := (Moment.look_of_none hmove).1
    refine ⟨?_, ?_, ?_⟩ <;> rw [hhost]
    · exact ha.line
    · exact ha.sent
    · exact ha.turn
  | some next =>
    obtain ⟨e, move⟩ := next
    obtain ⟨waiting, permit, hmover⟩ := m'.host.mover_eq
    have hline : m'.host.mover.waiting ⊆ m.host.waiting :=
      fun e' he' => ha.line (m'.host.mover_waiting_subset he')
    have hsame : m'.host.mover.transmissions = m'.host.transmissions :=
      (Host.agrees_mover m'.host).transmissions
    have hafter := (Moment.look_of_nextMove hmove).1
    cases move with
    | rest =>
      have hhost : (m'.after .look).host = m'.host.mover := hafter
      obtain ⟨hactive, -⟩ := Host.mover_of_rest hmove
      have hflight : m'.host.mover.inFlight = m'.host.inFlight := by rw [hmover]
      refine ⟨?_, ?_, ?_⟩
      · rw [hhost]
        exact hline
      · rw [hhost, hsame]
        exact ha.sent
      · rw [hhost, hactive, hflight]
        exact ha.turn
    | transmit t =>
      have hmem := ha.mem_of_transmit hmove
      have hsent : (m'.after .look).host.transmissions
          = m'.host.transmissions ++ [(e.ticket, e.request)] := by
        rw [hafter, ← hm'.request_of_transmit hmove, ← hsame]
        exact Host.transmissions_append m'.host.mover [.transmitted e.ticket t.request]
      obtain ⟨later, hlater, hasked⟩ := ha.sent
      refine ⟨?_, ⟨later ++ [(e.ticket, e.request)], ?_, ?_⟩, ?_⟩
      · rw [hafter]
        exact hline
      · rw [hsent, hlater, List.append_assoc]
      · intro p hp
        rcases List.mem_append.mp hp with hold | hnew
        · exact hasked p hold
        · exact ⟨e, hmem, List.mem_singleton.mp hnew⟩
      · intro x hx
        rw [hafter] at hx
        obtain rfl := Option.some.inj hx
        exact .inl hmem
    | finish result =>
      have hhost : (m'.after .look).host = conclude m'.host.left e result := hafter
      have hleft : m'.host.left.running = false := by
        unfold Host.left
        rw [hmover]
        exact hstopped
      refine ⟨?_, ?_, ?_⟩
      · rw [hhost, conclude_waiting_of_stopped hleft]
        exact hline
      · rw [hhost, conclude_transmissions]
        have hboxed : m'.host.left.transmissions = m'.host.transmissions := hsame
        rw [hboxed]
        exact ha.sent
      · intro x hx
        rw [hhost, conclude_active] at hx
        cases hx

/-- **Every event of a lull** leaves the callers at the stop to themselves. -/
theorem after (hm' : m'.Reachable) (hstopped : m'.host.running = false) (ha : Adjourned m m')
    (event : Event π) : Adjourned m (m'.after event) := by
  by_cases hlook : event = .look
  · subst hlook
    exact ha.look hm' hstopped
  · obtain ⟨hline, hsent⟩ := m'.line_of_stopped hstopped hlook
    refine ⟨fun e he => ha.line (hline he), ?_, ?_⟩
    · rw [hsent]
      exact ha.sent
    · intro x hx
      obtain ⟨hbefore, hstays⟩ := m'.turn_of_stopped hstopped hlook hx
      rcases ha.turn x hbefore with hmem | ⟨hactive, s, hs, hflight⟩
      · exact .inl hmem
      · refine .inr ⟨hactive, s, hs, hstays s.fail hflight ?_⟩
        unfold Sequence.isTerminal Sequence.fail
        rw [Sequence.enter_state]
        rfl

end Adjourned

/-- **What goes on in a lull** goes on among the callers at the stop. -/
theorem Lull.adjourned {allowed : Event π → Prop} {m m' : Moment π} (hm : m.Reachable)
    (hrunning : m.host.running = true) (hl : Lull allowed (m.after .stop) m') :
    Adjourned m m' := by
  have hstopped : (m.after .stop).host.running = false :=
    (Adapter.stop_of_running (a := m.adapter) hrunning).2.2.1
  induction hl with
  | here => exact .of_stop hm hrunning
  | next before event hallowed _ ih =>
    exact ih.after (before.reachable (hm.after .stop)) (before.running_eq hstopped) event

/-! ## §4. Waits for nothing -/

/-- Between its transmission and its deadline a caller that nothing answers has
    nothing to do but wait. -/
structure Idles (h : Host) (x : Exchange) (s : Sequence) : Prop where
  active : h.active = some x
  inFlight : h.inFlight = some s
  unsignalled : isSignalled s = false
  seen : x.rejectionsSeen = h.rejections

omit [Port π] in
theorem Idles.nextMove {h : Host} {x : Exchange} {s : Sequence} (hi : Idles h x s) {now : Nat}
    (hearly : now < x.deadline) {e : Errand} {move : Move}
    (hmove : h.nextMove? now = some (e, move)) : e = x.errand ∧ move = .rest := by
  obtain ⟨he, hnext⟩ := Host.nextMove?_of_active hi.active hmove
  refine ⟨he, hnext.trans ?_⟩
  have hstale : (h.permit && isFresh h x s) = false := by
    have hnot : isFresh h x s = false :=
      Bool.eq_false_iff.mpr fun hfresh => (isFresh_eq_true_iff.mp hfresh).1 hi.seen.symm
    rw [hnot, Bool.and_false]
  unfold Host.move
  simp only [hi.inFlight, hi.unsignalled, hstale, Nat.not_le.mpr hearly, Bool.false_eq_true,
    if_false]

/-- **It waits until its deadline**, whatever else happens in the lull. -/
theorem Idles.lull {m m' : Moment π} {x : Exchange} {s : Sequence} (hi : Idles m.host x s)
    (hstopped : m.host.running = false)
    (hl : Lull (Event.Silent x.errand.ticket) m m') (hearly : m'.now < x.deadline) :
    Idles m'.host x s := by
  induction hl with
  | here => exact hi
  | @next m' before event hsilent _ ih =>
    have hearly' : m'.now < x.deadline := Nat.lt_of_le_of_lt (m'.now_le_after event) hearly
    have hi' := ih hearly'
    by_cases hbystander : event.IsBystander
    · have hspares : event.Spares x.errand.ticket := by
        cases event with
        | abandon t => exact hsilent
        | _ => trivial
      obtain ⟨hagrees, -⟩ := m'.agrees_after hi'.active hbystander hspares
      exact ⟨hagrees.active.trans hi'.active, hagrees.inFlight.trans hi'.inFlight,
        hi'.unsignalled, hi'.seen.trans hagrees.rejections.symm⟩
    · cases event with
      | receive bytes => exact hsilent.elim
      | stop =>
        rw [Moment.stop_of_stopped (before.running_eq hstopped)]
        exact hi'
      | look =>
        cases hmove : m'.host.nextMove? m'.now with
        | none =>
          rw [(Moment.look_of_none hmove).1]
          exact hi'
        | some next =>
          obtain ⟨e, move⟩ := next
          obtain ⟨rfl, rfl⟩ := hi'.nextMove hearly' hmove
          have hhost : (m'.after .look).host = m'.host.mover := (Moment.look_of_nextMove hmove).1
          obtain ⟨_, _, hmover⟩ := m'.host.mover_eq
          rw [hhost, hmover]
          exact ⟨hi'.active, hi'.inFlight, hi'.unsignalled, hi'.seen⟩
      | _ => exact absurd trivial hbystander

/-! ## §5. Stops -/

section

variable {m : Moment π} {e : Errand} {rest : List Errand}

/-- **A turn that begins** begins with a transmission, and then there is nothing
    to do but wait, if the request has an ACK at least. -/
theorem Moment.begins (hactive : m.host.active = none) (hwaiting : m.host.waiting = e :: rest) :
    (m.after .look).host.transmissions = m.host.transmissions ++ [(e.ticket, e.request)]
      ∧ (e.flow ≠ .unacknowledged → ∃ x s, Idles (m.after .look).host x s ∧ x.errand = e
        ∧ x.deadline = m.now + m.host.config.timeout) := by
  have hmove := Host.nextMove?_of_inLine m.now hactive hwaiting
  have hrequest : ((e.fresh m.host.config.maxRetries).enter e.flow.afterStart).request
      = e.request := Sequence.enter_request _ _
  obtain ⟨_, _, hafter⟩ := Moment.look_of_transmit hmove
  constructor
  · rw [hafter, hrequest]
    exact Host.transmissions_append _ [.transmitted e.ticket e.request]
  · intro hflow
    have hwaits : e.flow.afterStart.isTerminal = false := by
      cases hf : e.flow with
      | unacknowledged => exact absurd hf hflow
      | _ => rfl
    have hidles : Idles (m.after .look).host
        ⟨e, m.host.rejections, m.now + m.host.config.timeout⟩
        ((e.fresh m.host.config.maxRetries).enter e.flow.afterStart) := by
      refine ⟨congrArg Host.active hafter, congrArg Host.inFlight hafter, ?_,
        (congrArg Host.rejections hafter).symm⟩
      exact (isSignalled_enter (Sequence.ready_fresh e m.host).unsignalled _).trans hwaits
    exact ⟨_, _, hidles, rfl, rfl⟩

end

/-- A stop ends the calls that are on their way: in the lull after it nothing
    is sent, and as long as there are callers one of them leaves at once. -/
def Moment.StopEndsCalls (m : Moment π) : Prop :=
  ∀ m', Lull (fun _ => True) (m.after .stop) m' →
    m'.host.transmissions = m.host.transmissions
      ∧ (m'.host.callers ≠ [] → ∃ e result, m'.host.nextMove? m'.now = some (e, .finish result))

section

variable {m : Moment π} (hm : m.Reachable) (hrunning : m.host.running = true)

include hm hrunning

/-- The caller whose turn it was at a stop leaves with a failed outcome. -/
theorem Moment.leaves_of_stop {m' : Moment π}
    (hl : Lull (fun _ => True) (m.after .stop) m') {x : Exchange}
    (hturn : m'.host.active = some x) : x.errand ∈ m.host.waiting
      ∨ m.host.active = some x ∧ ∃ o : Outcome, o.state = .failed
        ∧ m'.host.nextMove? m'.now = some (x.errand, .finish (.ok o))
        ∧ (m'.after .look).host = m'.host.left.report
          (.finished x.errand.ticket (.ok (x.errand.recovers.getD o))) := by
  have hstopped : (m.after .stop).host.running = false :=
    (Adapter.stop_of_running (a := m.adapter) hrunning).2.2.1
  rcases (hl.adjourned hm hrunning).turn x hturn with hmem | ⟨hbefore, s, -, hflight⟩
  · exact .inl hmem
  · have hover : isSignalled s.fail = true := isSignalled_enter_terminal s rfl
    have hfailed : s.fail.outcome.state = .failed := by
      have hstate : s.fail.state = .failed := s.enter_state .failed
      unfold Sequence.outcome Sequence.isTerminal
      rw [hstate]
      exact hstate
    exact .inr ⟨hbefore, s.fail.outcome, hfailed,
      Host.nextMove?_of_signalled m'.now hturn hflight hover,
      Moment.look_of_leaving (hl.running_eq hstopped) hturn hflight hover⟩

/-- **A stop ends the calls exactly if nobody is in line.** -/
theorem Moment.stopEndsCalls_iff : m.StopEndsCalls ↔ m.host.waiting = [] := by
  have hstopped : (m.after .stop).host.running = false :=
    (Adapter.stop_of_running (a := m.adapter) hrunning).2.2.1
  have hsame : m.host.SameCalls (m.after .stop).host := m.sameCalls_after nofun
  constructor
  · intro hends
    -- once nobody has the turn, the first in line sends its request
    have hnobody {m' : Moment π} (hl : Lull (fun _ => True) (m.after .stop) m')
        (hactive : m'.host.active = none) (hline : m'.host.waiting = m.host.waiting) :
        m.host.waiting = [] := by
      cases hwaiting : m.host.waiting with
      | nil => rfl
      | cons e rest =>
        have hwaiting := hline.trans hwaiting
        have hcallers : m'.host.callers ≠ [] := by
          unfold Host.callers
          rw [hwaiting]
          exact List.append_ne_nil_of_right_ne_nil _ (List.cons_ne_nil _ _)
        obtain ⟨e', result, hmove⟩ := (hends m' hl).2 hcallers
        rw [Host.nextMove?_of_inLine m'.now hactive hwaiting] at hmove
        cases hmove
    cases hactive : (m.after .stop).host.active with
    | none => exact hnobody .here hactive hsame.waiting
    | some x =>
      obtain ⟨h₀, log, s, hu⟩ := hm.underway (hsame.active.symm.trans hactive)
      have hflight : (m.after .stop).host.inFlight = some s.fail := by
        rw [Moment.inFlight_of_stop hrunning, hu.inFlight]
        rfl
      have hover : isSignalled s.fail = true := isSignalled_enter_terminal s rfl
      have hafter := Moment.look_of_leaving hstopped hactive hflight hover
      have hline : (m.after .stop).host.mover.waiting = (m.after .stop).host.waiting := by
        have hcallers := Host.callers_of_nextMove
          (Host.nextMove?_of_signalled (m.after .stop).now hactive hflight hover)
        unfold Host.callers at hcallers
        rw [hactive] at hcallers
        exact (List.cons.inj hcallers).2.symm
      refine hnobody (.next .here .look trivial ((m.after .stop).running_look.1.trans hstopped))
        (congrArg Host.active hafter) ?_
      rw [hafter]
      exact hline.trans hsame.waiting
  · intro hline m' hl
    have ha := hl.adjourned hm hrunning
    constructor
    · obtain ⟨later, hlater, hasked⟩ := ha.sent
      have hnone : later = [] := by
        refine List.eq_nil_iff_forall_not_mem.mpr fun p hp => ?_
        obtain ⟨e, he, -⟩ := hasked p hp
        rw [hline] at he
        cases he
      rw [hlater, hnone, List.append_nil]
    · intro hcallers
      have hwaiting : m'.host.waiting = [] := List.subset_nil.mp (hline ▸ ha.line)
      cases hactive : m'.host.active with
      | none =>
        refine absurd ?_ hcallers
        unfold Host.callers
        rw [hactive, hwaiting]
        rfl
      | some x =>
        rcases Moment.leaves_of_stop hm hrunning hl hactive with hmem | ⟨-, o, -, hmove, -⟩
        · rw [hline] at hmem
          cases hmem
        · exact ⟨_, _, hmove⟩

/-- **A stop ends the calls that are on their way exactly if nobody is in line.**
    In the lull after it new calls are refused, and whatever is sent is the
    request of somebody who was in line.  The caller whose turn it was leaves
    with a failed outcome at its next look, and no Soft Reset follows.  But
    whoever was in line, when its turn comes, hands its request to the link,
    stopped or not, and, if the request has an ACK at least, waits for it for a
    whole timeout. -/
theorem stop_ends_calls_iff :
    (m.StopEndsCalls ↔ m.host.waiting = [])
      ∧ ∀ m', Lull (fun _ => True) (m.after .stop) m' →
        (∀ request, ∃ error, examine m'.host request = .error error
          ∧ (error = .notRunning ∨ ∃ fault, error = .frame fault))
        ∧ (∃ later, m'.host.transmissions = m.host.transmissions ++ later
          ∧ ∀ p ∈ later, ∃ e ∈ m.host.waiting, p = (e.ticket, e.request))
        ∧ (∀ x, m'.host.active = some x → x.errand ∈ m.host.waiting
          ∨ m.host.active = some x ∧ ∃ o : Outcome, o.state = .failed
            ∧ m'.host.nextMove? m'.now = some (x.errand, .finish (.ok o))
            ∧ (m'.after .look).host = m'.host.left.report
              (.finished x.errand.ticket (.ok (x.errand.recovers.getD o))))
        ∧ ∀ e rest, m'.host.active = none → m'.host.waiting = e :: rest →
          (m'.after .look).host.transmissions = m'.host.transmissions ++ [(e.ticket, e.request)]
          ∧ (e.flow ≠ .unacknowledged →
            ∀ m'', Lull (Event.Silent e.ticket) (m'.after .look) m'' →
              m''.now < m'.now + m'.host.config.timeout →
              ∃ x, m''.host.active = some x ∧ x.errand = e) := by
  have hstopped : (m.after .stop).host.running = false :=
    (Adapter.stop_of_running (a := m.adapter) hrunning).2.2.1
  refine ⟨Moment.stopEndsCalls_iff hm hrunning, fun m' hl => ⟨?_, ?_, ?_, ?_⟩⟩
  · exact examine_of_stopped (hl.running_eq hstopped)
  · exact (hl.adjourned hm hrunning).sent
  · exact fun x hturn => Moment.leaves_of_stop hm hrunning hl hturn
  · intro e rest hactive hwaiting
    obtain ⟨hsent, hwaits⟩ := Moment.begins hactive hwaiting
    refine ⟨hsent, fun hflow m'' hsilence hearly => ?_⟩
    obtain ⟨x, s, hidles, rfl, hdeadline⟩ := hwaits hflow
    rw [← hdeadline] at hearly
    have hstill : (m'.after .look).host.running = false :=
      m'.running_look.1.trans (hl.running_eq hstopped)
    exact ⟨x, (hidles.lull hstill hsilence hearly).active, rfl⟩

end

/-- Two requests at once: one is under way, and the other is in line. -/
def Moment.twoCalls : Moment ScriptedPort :=
  started.run [.send .getInitData, .look, .send .getLibraryVersion]

theorem Moment.reachable_twoCalls : twoCalls.Reachable := reachable_started.run _

/-- The request in line is sent after the stop, though the adapter is not running. -/
theorem stop_ends_calls_but_line :
    Moment.twoCalls.Reachable ∧ Moment.twoCalls.host.running = true
      ∧ ¬ Moment.twoCalls.StopEndsCalls
      ∧ (∀ request, ∃ error, examine (Moment.twoCalls.after .stop).host request = .error error)
      ∧ (Moment.twoCalls.run [.stop, .look]).host.active = none
      ∧ (Moment.twoCalls.run [.stop, .look, .look]).host.transmissions
        = Moment.twoCalls.host.transmissions ++ [(1, ⟨3, .request, 0x15, [], 0xE9⟩)] := by
  have hrunning : Moment.twoCalls.host.running = true := rfl
  obtain ⟨hiff, hlull⟩ := stop_ends_calls_iff Moment.reachable_twoCalls hrunning
  refine ⟨Moment.reachable_twoCalls, hrunning, ?_, ?_, rfl, rfl⟩
  · intro hends
    have hempty := congrArg List.length (hiff.mp hends)
    cases hempty
  · intro request
    obtain ⟨error, hexamined, -⟩ := (hlull _ .here).1 request
    exact ⟨error, hexamined⟩

/-- **A stop need not end the calls** that are on their way. -/
theorem stop_need_not_end_calls :
    ¬ ∀ m : Moment ScriptedPort, m.Reachable → m.host.running = true → m.StopEndsCalls := by
  intro hall
  have hends := hall .twoCalls Moment.reachable_twoCalls rfl
  have hempty := congrArg List.length
    ((Moment.stopEndsCalls_iff Moment.reachable_twoCalls rfl).mp hends)
  cases hempty

end ZWaveHost
