/-
  ZWaveHost.Proofs.Exchange.Unacknowledged — requests that nothing answers.

  A request without even an ACK is over as soon as it is started, and it is
  started before its frame is handed to the link.  So its caller learns that
  it is complete whatever becomes of the frame.  The frame may have to wait
  for the line, and may be given up there; nobody acts on it.

  Main facts: once such a request has been sent, only a stop still matters to
  it (`OneWayAt.after`); its frame comes to the line before its turn ends
  (`OneWayAt.exists_end_of_wait`); and whoever learns that it is complete has
  had its frame handed to the link exactly once
  (`unacknowledged_is_sent_once`).
-/
import ZWaveHost.Proofs.Exchange.Results
import ZWaveHost.Proofs.Run.Isolation
import ZWaveHost.Proofs.Run.Waiters

namespace ZWaveHost

open Adapter

variable {π : Type} [Port π]

/-! ## §1. Requests that are over when they are sent -/

/-- A sequence that was over when it was sent, the first time.  It is complete,
    unless the adapter has been `stopped` since. -/
structure Sequence.OneWay (stopped : Prop) (s : Sequence) : Prop where
  signalled : isSignalled s = true
  state : s.state = .complete ∨ stopped ∧ s.state = .failed
  attempt : s.attempt = 1
  maxRetries : s.maxRetries ≠ 0
  noResponse : s.response = none
  noCallback : s.callback = none

/-- What the caller of such a request learns. -/
def Outcome.OneWay (stopped : Prop) (o : Outcome) : Prop :=
  o = ⟨.complete, 1, none, none⟩ ∨ stopped ∧ o = ⟨.failed, 1, none, none⟩

theorem Outcome.OneWay.mono {stopped stopped' : Prop} {o : Outcome} (ho : o.OneWay stopped)
    (hlater : stopped → stopped') : o.OneWay stopped' :=
  ho.imp_right fun ⟨hstopped, heq⟩ => ⟨hlater hstopped, heq⟩

namespace Sequence

variable {stopped stopped' : Prop} {s : Sequence}

/-- An attempt that nothing answers. -/
theorem oneWay_attempt {e : Errand} {h : Host} (hflow : e.flow = .unacknowledged) :
    (e.fresh h.config.maxRetries).attemptMove
        = .transmit ((e.fresh h.config.maxRetries).enter .complete)
      ∧ ((e.fresh h.config.maxRetries).enter .complete).OneWay False := by
  refine ⟨?_, ?_⟩
  · have hmove := attemptMove_fresh e h
    rw [hflow] at hmove
    exact hmove
  · exact {
      signalled := isSignalled_enter_terminal _ rfl
      state := .inl (enter_state _ _)
      attempt := enter_attempt _ _
      maxRetries := by rw [enter_maxRetries]; exact h.valid.maxRetries_ne
      noResponse := enter_response _ _
      noCallback := enter_callback _ _ }

namespace OneWay

theorem mono (hs : s.OneWay stopped) (hlater : stopped → stopped') : s.OneWay stopped' :=
  { hs with state := hs.state.imp_right fun ⟨hstopped, heq⟩ => ⟨hlater hstopped, heq⟩ }

theorem isTerminal (hs : s.OneWay stopped) : s.isTerminal = true := by
  unfold Sequence.isTerminal
  rcases hs.state with hstate | ⟨_, hstate⟩ <;>
  · rw [hstate]
    rfl

theorem fail (hs : s.OneWay stopped) (hstopped : stopped') : s.fail.OneWay stopped' where
  signalled := isSignalled_enter_terminal s rfl
  state := .inr ⟨hstopped, s.enter_state .failed⟩
  attempt := (s.enter_attempt .failed).trans hs.attempt
  maxRetries := by rw [Sequence.fail, enter_maxRetries]; exact hs.maxRetries
  noResponse := (s.enter_response .failed).trans hs.noResponse
  noCallback := (s.enter_callback .failed).trans hs.noCallback

/-- The one attempt counts. -/
theorem outcome (hs : s.OneWay stopped) : s.outcome.OneWay stopped := by
  have hattempts : min s.attempt s.maxRetries = 1 := by
    have hne : s.maxRetries.toNat ≠ 0 := fun h0 => hs.maxRetries (UInt32.toNat_inj.mp h0)
    have hle : (1 : UInt32) ≤ s.maxRetries := by
      have hone : (1 : UInt32).toNat = 1 := rfl
      rw [UInt32.le_iff_toNat_le]
      omega
    rw [hs.attempt]
    exact if_pos hle
  have houtcome : s.outcome = ⟨s.state, 1, none, none⟩ := by
    unfold Sequence.outcome Outcome.ofSequence
    rw [if_pos hs.isTerminal, hattempts, hs.noResponse, hs.noCallback]
  rw [houtcome]
  rcases hs.state with hstate | ⟨hstopped, hstate⟩
  · exact .inl (by rw [hstate])
  · exact .inr ⟨hstopped, by rw [hstate]⟩

end OneWay

end Sequence

/-! ## §2. Once it has been sent -/

/-- Where a request stands that nothing answers, since it was sent: the caller
    has not looked up yet, or its exchange has ended, or it has gone. -/
inductive OneWayAt (e : Errand) (stopped : Prop) (marks : List CallMark) (h : Host) : Prop
  | waits {x : Exchange} {s : Sequence} (hmarks : marks = []) (hactive : h.active = some x)
    (herrand : x.errand = e) (hflight : h.inFlight = some s) (hs : s.OneWay stopped)
  | ended {o : Outcome} {reset : Except HostError (DataFrame × Flow)} {more : List CallMark}
    (hmarks : marks = .ended e (.ok o) reset :: more) (ho : o.OneWay stopped)
  | gone (hmarks : marks = []) (hnone : h.pending e.ticket = [])

/-- A caller with a signalled sequence leaves at its next look. -/
theorem Host.nextMove?_of_signalled {h : Host} (now : Nat) {x : Exchange} {s : Sequence}
    (hactive : h.active = some x) (hflight : h.inFlight = some s) (hsig : isSignalled s = true) :
    h.nextMove? now = some (x.errand, .finish (.ok s.outcome)) := by
  have hready : isReady now h x = true := by
    unfold isReady
    rw [hflight, Option.all_some, hsig, Bool.or_true]
  have hmove : h.move now x = .finish (.ok s.outcome) := by
    unfold move
    simp only [hflight, hsig, if_true]
  unfold nextMove?
  simp only [hactive, hready, if_true, hmove]

namespace OneWayAt

variable {e : Errand} {stopped : Prop} {marks : List CallMark} {m : Moment π}

/-- **Only a stop still matters** to the request: at the next look its caller
    learns that it is complete, or else that it has failed. -/
theorem after (hissued : e.ticket < m.host.nextTicket) (ho : OneWayAt e stopped marks m.host)
    (event : Event π) :
    OneWayAt e (stopped ∨ event = .stop) (marks ++ m.marksOf e.ticket event)
      (m.after event).host := by
  have hquiet (hother : event ≠ .look) : m.marksOf e.ticket event = [] :=
    Moment.marksOf_of_not_steps fun hsteps => hother hsteps.1
  cases ho with
  | ended hmarks ho =>
    rw [hmarks, List.cons_append]
    exact .ended rfl (ho.mono .inl)
  | gone hmarks hnone =>
    rw [Moment.marksOf_of_not_steps (Moment.not_steps_of_pending hnone event), hmarks]
    exact .gone rfl (Moment.settled_after hissued hnone event).1
  | @waits x s hmarks hactive herrand hflight hs =>
    rw [hmarks, List.nil_append]
    by_cases hspares : event.Spares e.ticket
    · by_cases hbystander : event.IsBystander
      · rw [← herrand] at hspares
        obtain ⟨hagrees, _⟩ := m.agrees_after hactive hbystander hspares
        have hother : event ≠ .look := by
          rintro rfl
          exact hbystander
        rw [hquiet hother]
        exact .waits rfl (hagrees.active.trans hactive) herrand (hagrees.inFlight.trans hflight)
          (hs.mono .inl)
      · cases event with
        | receive bytes =>
          obtain ⟨_, _, _, _, heq⟩ := m.adapter.receive_host_eq bytes
          have hstill : (m.adapter.receive bytes).host.active = m.adapter.host.active := by
            rw [heq]
          exact .waits (hquiet nofun) (hstill.trans hactive) herrand
            (Adapter.receive_of_isTerminal hflight hs.isTerminal bytes) (hs.mono .inl)
        | look =>
          have hmove := Host.nextMove?_of_signalled m.now hactive hflight hs.signalled
          rw [herrand] at hmove
          exact .ended (Moment.marksOf_look hmove) (hs.outcome.mono .inl)
        | stop =>
          rcases m.agrees_stop with hagrees | hagrees
          · exact .waits (hquiet nofun) (hagrees.active.trans hactive) herrand
              (hagrees.inFlight.trans hflight) (hs.mono .inl)
          · have hfailed : (failInFlight m.host).inFlight = some s.fail :=
              congrArg (Option.map Sequence.fail) hflight
            exact .waits (hquiet nofun) (hagrees.active.trans hactive) herrand
              (hagrees.inFlight.trans hfailed) (hs.fail (.inr rfl))
        | _ => exact absurd trivial hbystander
    · obtain rfl := Event.eq_abandon_of_not_spares hspares
      exact .gone (hquiet nofun) (m.pending_abandon_self e.ticket)

theorem mono {stopped' : Prop} {h : Host} (ho : OneWayAt e stopped marks h)
    (hlater : stopped → stopped') : OneWayAt e stopped' marks h := by
  cases ho with
  | waits hmarks hactive herrand hflight hs =>
    exact .waits hmarks hactive herrand hflight (hs.mono hlater)
  | ended hmarks ho => exact .ended hmarks (ho.mono hlater)
  | gone hmarks hnone => exact .gone hmarks hnone

/-- **Where the request stands after a run.** -/
theorem run (hissued : e.ticket < m.host.nextTicket) (ho : OneWayAt e stopped marks m.host)
    (events : List (Event π)) :
    OneWayAt e (stopped ∨ .stop ∈ events) (marks ++ m.notes (Moment.marksOf e.ticket) events)
      (m.run events).host := by
  -- by induction on the events; the marks and the stops grow with them
  induction events generalizing m marks stopped with
  | nil =>
    show OneWayAt e _ (marks ++ []) m.host
    rw [List.append_nil]
    exact ho.mono .inl
  | cons event rest ih =>
    have hnext := ih (Nat.lt_of_lt_of_le hissued (m.nextTicket_le_after event))
      (ho.after hissued event)
    rw [List.append_assoc] at hnext
    refine hnext.mono ?_
    rintro ((hstopped | heq) | hmem)
    · exact .inl hstopped
    · exact .inr (heq ▸ List.mem_cons_self)
    · exact .inr (List.mem_cons_of_mem _ hmem)

end OneWayAt

/-! ## §3. The hand-over -/

namespace Moment

variable {m : Moment π} {e : Errand}

/-- **The first step of a request that nothing answers** hands its frame to the
    link, and reports that. -/
theorem sends_of_inLine (hflow : e.flow = .unacknowledged) (hwaits : e ∈ m.host.waiting)
    (hpending : m.host.pending e.ticket = [e]) {move : Move}
    (hmove : m.host.nextMove? m.now = some (e, move)) :
    m.marksOf e.ticket .look = [.transmitted e e.request]
      ∧ OneWayAt e False [] (m.after .look).host
      ∧ (m.after .look).adapter.link
        = m.adapter.link.post (.caller e.ticket) (.data e.request)
      ∧ (m.after .look).host.outbox
        = m.host.outbox ++ [.transmitted e.ticket e.request] := by
  obtain ⟨hactive, hwaiting⟩ := begins_of_inLine hwaits hpending hmove
  obtain ⟨hattempt, hs⟩ := Sequence.oneWay_attempt (e := e) (h := m.host) hflow
  have hnext : m.host.nextMove? m.now
      = some (e, (e.fresh m.host.config.maxRetries).attemptMove) := by
    unfold Host.nextMove?
    simp only [hactive, hwaiting]
  rw [hattempt] at hnext
  obtain ⟨_, _, hmover⟩ := m.host.mover_eq
  -- nobody has the turn, so no wait ends with this step
  have hturn : m.adapter.turnLink = m.adapter.link := turnLink_of_none hactive
  let t := (e.fresh m.host.config.maxRetries).enter .complete
  have hafter : (m.after .look).adapter
      = perform m.now e ⟨m.adapter.link, m.host.mover⟩ (.transmit t) := by
    rw [look_adapter, hnext, hturn]
  have hrequest : t.request = e.request := Sequence.enter_request _ _
  have houtbox : m.host.mover.outbox = m.host.outbox := by rw [hmover]
  show _ ∧ OneWayAt e False [] (m.after .look).adapter.host ∧ _
    ∧ (m.after .look).adapter.host.outbox = _
  rw [hafter, ← hrequest, ← houtbox]
  refine ⟨?_, .waits rfl rfl rfl rfl hs, rfl, rfl⟩
  rw [marksOf_look hnext, Move.callMarks, hrequest]

end Moment

/-! ## §4. The way to the line -/

/-- **How a caller's frame comes to the line**, when it is handed over at the
    next look and `later` is what happens then.  The link is the one over which
    the frame is sent, and whatever `send` says of it is what becomes of the
    frame. -/
inductive Moment.ComesToLine (m : Moment π) (ticket : Nat) (frame : Frame)
    (later : List (Event π)) : Link π → Prop
  /-- The line is free, and the caller need not wait. -/
  | atOnce (hfree : m.adapter.link.line = .free)
    (hsent : (m.after .look).adapter.link = (m.adapter.link.send frame).2) :
    ComesToLine m ticket frame later m.adapter.link
  /-- The line is held, and the caller waits; its wait ends by itself or with its
      next step, while it still has its turn. -/
  | afterWait {between : List (Event π)} {ending : Event π} {rest : List (Event π)}
    (hheld : m.adapter.link.line = .held) (hlater : later = between ++ ending :: rest)
    (hending : ending = .look ∨ ending = .endWait ticket)
    (hturn : (((m.after .look).run between).host.active.map (·.errand.ticket)) = some ticket)
    (hwaits : ((m.after .look).run between).adapter.link.waitsWith? (.caller ticket) = some frame)
    (hsent : (((m.after .look).run between).after ending).adapter.link
      = ((((m.after .look).run between).adapter.link.dismiss (.caller ticket)).send frame).2) :
    ComesToLine m ticket frame later
      (((m.after .look).run between).adapter.link.dismiss (.caller ticket))

/-- **A wait for the line ends before the turn does.**  As soon as anything is
    noted of a caller that waits, there is the event with which its wait has
    ended, and its frame has been sent over the link of that moment. -/
theorem OneWayAt.exists_end_of_wait {e : Errand} {stopped : Prop} {m : Moment π} {frame : Frame}
    (hm : m.Reachable) (hissued : e.ticket < m.host.nextTicket)
    (hat : OneWayAt e stopped [] m.host)
    (hwaits : m.adapter.link.waitsWith? (.caller e.ticket) = some frame) {later : List (Event π)}
    (hnotes : m.notes (Moment.marksOf e.ticket) later ≠ []) :
    ∃ between ending rest, later = between ++ ending :: rest
      ∧ (ending = .look ∨ ending = .endWait e.ticket)
      ∧ (m.run between).host.active.map (·.errand.ticket) = some e.ticket
      ∧ (m.run between).adapter.link.waitsWith? (.caller e.ticket) = some frame
      ∧ ((m.run between).after ending).adapter.link
        = (((m.run between).adapter.link.dismiss (.caller e.ticket)).send frame).2 := by
  -- by induction on the events; until the wait ends, the caller stays where it is
  induction later generalizing m stopped with
  | nil => exact absurd rfl hnotes
  | cons event rest ih =>
    cases hstands : hat with
    | ended hended _ => cases hended
    | gone _ hnone => exact absurd (Moment.settled_run hissued hnone (event :: rest)).1 hnotes
    | @waits x s _ hactive herrand hflight hs =>
      have hturn : m.host.active.map (·.errand.ticket) = some e.ticket := by
        rw [hactive, ← herrand]
        rfl
      have hsent := Link.afterWait_of_waits hwaits
      by_cases hend : event = .endWait e.ticket
      · obtain rfl := hend
        exact ⟨[], _, rest, rfl, .inr rfl, hturn, hwaits, hsent⟩
      by_cases hlook : event = .look
      · obtain rfl := hlook
        have hmove := Host.nextMove?_of_signalled m.now hactive hflight hs.signalled
        have hlink : (m.after .look).adapter.link
            = m.adapter.link.afterWait (.caller e.ticket) := by
          rw [Moment.look_adapter, hmove]
          rw [← herrand]
          exact turnLink_of_active hactive
        exact ⟨[], _, rest, rfl, .inl rfl, hturn, hwaits, hlink.trans hsent⟩
      · -- the wait goes on, and nothing is noted
        have hquiet : m.marksOf e.ticket event = [] :=
          Moment.marksOf_of_not_steps fun hsteps => hlook hsteps.1
        have hnext := hat.after hissued event
        rw [hquiet, List.append_nil] at hnext
        have hnotes : (m.after event).notes (Moment.marksOf e.ticket) rest ≠ [] := by
          intro hnone
          apply hnotes
          show m.marksOf e.ticket event ++ _ = []
          rw [hquiet, hnone]
          rfl
        obtain ⟨between, ending, rest, rfl, hfound⟩ :=
          ih (hm.after event) (Nat.lt_of_lt_of_le hissued (m.nextTicket_le_after event)) hnext
            ((Moment.waitsWith?_after hm hlook hend).trans hwaits) hnotes
        exact ⟨event :: between, ending, rest, rfl, hfound⟩

/-- **A frame that has been handed over comes to the line** before anything more
    is noted of its caller. -/
theorem Moment.Reachable.exists_comesToLine {e : Errand} {stopped : Prop} {m : Moment π}
    (hm : m.Reachable) (hunsent : m.host.sent e.ticket = [])
    (hissued : e.ticket < (m.after .look).host.nextTicket)
    (hlink : (m.after .look).adapter.link
      = m.adapter.link.post (.caller e.ticket) (.data e.request))
    (hat : OneWayAt e stopped [] (m.after .look).host) {later : List (Event π)}
    (hnotes : (m.after .look).notes (Moment.marksOf e.ticket) later ≠ []) :
    ∃ l, m.ComesToLine e.ticket (.data e.request) later l := by
  unfold Link.post at hlink
  cases hline : m.adapter.link.line with
  | free =>
    rw [hline] at hlink
    exact ⟨_, .atOnce hline hlink⟩
  | held =>
    rw [hline] at hlink
    have hwaits : (m.after .look).adapter.link.waitsWith? (.caller e.ticket)
        = some (.data e.request) := by
      rw [hlink]
      exact Link.waitsWith?_enqueue_self (hm.waitsWith?_eq_none hunsent)
    obtain ⟨between, ending, rest, hlater, hending, hturn, hwaits, hsent⟩ :=
      hat.exists_end_of_wait (hm.after .look) hissued hwaits hnotes
    exact ⟨_, .afterWait hline hlater hending hturn hwaits hsent⟩

/-! ## §5. The one transmission -/

omit [Port π] in
/-- The first step of a call is that of an errand in line. -/
theorem CallAt.inLine_of_steps {c : Config} {e : Errand} {gone : Prop} {m : Moment π}
    {event : Event π} (hc : CallAt c e gone [] m.host) (hsteps : m.Steps e.ticket event) :
    e ∈ m.host.waiting ∧ m.host.pending e.ticket = [e]
      ∧ ∃ move, m.host.nextMove? m.now = some (e, move) := by
  have hbusy : m.host.pending e.ticket ≠ [] := fun hnone =>
    Moment.not_steps_of_pending hnone event hsteps
  cases hc with
  | recovering hmarks _ _ _ _ _ _ => exact absurd hmarks (by simp)
  | closed _ hnone _ => exact absurd hnone hbusy
  | abandoned _ _ hnone _ => exact absurd hnone hbusy
  | sending _ hpending _ hstage =>
    obtain ⟨_, e', move, hmove, hticket⟩ := hsteps
    obtain ⟨rfl, _⟩ := Moment.nextMove_of_pending hpending hmove hticket
    cases hstage with
    | inLine _ hwaits => exact ⟨hwaits, hpending, move, hmove⟩
    | onTurn h₀ log x s _ hcount hu =>
      -- nothing has been noted, so nothing has been sent
      have hpos := hu.transmissionTimes_pos
      rw [← hcount] at hpos
      cases hpos

/-- Where the first thing is noted of a call, its errand leaves the line. -/
theorem Moment.exists_first_step {m : Moment π} (hm : m.Reachable) {request : Request}
    {frame : DataFrame} {flow : Flow} (hexamined : examine m.host request = .ok (frame, flow))
    {events : List (Event π)}
    (hnotes : (m.after (.send request)).notes (marksOf m.host.nextTicket) events ≠ []) :
    ∃ before later, events = before ++ .look :: later
      ∧ (m.after (.send request)).notes (marksOf m.host.nextTicket) before = []
      ∧ let e : Errand := ⟨m.host.nextTicket, frame, flow, none⟩
        let reached := (m.after (.send request)).run before
        m.host.nextTicket < (reached.after .look).host.nextTicket
        ∧ e ∈ reached.host.waiting ∧ reached.host.pending m.host.nextTicket = [e]
        ∧ ∃ move, reached.host.nextMove? reached.now = some (e, move) := by
  let called := m.after (.send request)
  let e : Errand := ⟨m.host.nextTicket, frame, flow, none⟩
  have hissued : m.host.nextTicket < called.host.nextTicket := m.issued_send request
  obtain ⟨before, event, later, hevents, hbefore, hfirst⟩ := exists_first_note hnotes
  have hsteps : (called.run before).Steps m.host.nextTicket event := steps_of_marksOf hfirst
  have hat : CallAt m.host.config e _ ([] ++ called.notes (marksOf m.host.nextTicket) before)
      (called.run before).host :=
    (callAt_send hm.unused_next hexamined).run rfl before (m.config_after _) hissued
  have hbefore : called.notes (marksOf m.host.nextTicket) before = [] := hbefore
  rw [hbefore] at hat
  obtain ⟨hwaits, hpending, hmove⟩ := hat.inLine_of_steps hsteps
  obtain ⟨rfl, _⟩ := hsteps
  refine ⟨before, later, hevents, hbefore, ?_, hwaits, hpending, hmove⟩
  exact Nat.lt_of_lt_of_le hissued (Nat.le_trans (called.nextTicket_le_run before)
    ((called.run before).nextTicket_le_after .look))

/-- An exchange that has ended after its first transmission has had no other. -/
theorem OneWayAt.eq_nil_of_exchanged {e : Errand} {stopped : Prop}
    {marks again more : List CallMark} {h : Host} {o : Outcome}
    {reset : Except HostError (DataFrame × Flow)}
    (hat : OneWayAt e stopped marks h) (hagain : ∀ mark ∈ again, mark = .transmitted e e.request)
    (hmarks : marks = again ++ .ended e (.ok o) reset :: more) :
    again = [] ∧ o.OneWay stopped := by
  have hunended (hnone : marks = []) : again = [] ∧ o.OneWay stopped := by
    rw [hnone] at hmarks
    exact absurd hmarks.symm (List.append_ne_nil_of_right_ne_nil _ (List.cons_ne_nil _ _))
  cases hat with
  | waits hnone _ _ _ _ => exact hunended hnone
  | gone hnone _ => exact hunended hnone
  | ended hended ho =>
    rw [hended] at hmarks
    cases again with
    | nil =>
      cases (List.cons.inj hmarks).1
      exact ⟨rfl, ho⟩
    | cons second rest =>
      -- the second note is that of the end, and not of a transmission
      rw [hagain second List.mem_cons_self] at hmarks
      cases (List.cons.inj hmarks).1

section

variable {m : Moment π} (hm : m.Reachable) {request : Request} {frame : DataFrame}
  (hexamined : examine m.host request = .ok (frame, .unacknowledged))

include hm hexamined

/-- **A caller that learns anything of such a request** has had its frame handed
    to the link, whatever became of it. -/
theorem Moment.exists_sending {events : List (Event π)} {o : Outcome}
    (hresult : .ok o ∈ ((m.after (.send request)).run events).host.results m.host.nextTicket) :
    let ticket := m.host.nextTicket
    let called := m.after (.send request)
    o.OneWay (.stop ∈ events)
      ∧ (o.state = .complete → (called.run events).host.sent ticket = [frame])
      ∧ ∃ before later, events = before ++ .look :: later
        ∧ let reached := called.run before
          reached.host.sent ticket = []
          ∧ (reached.after .look).adapter.link
            = reached.adapter.link.post (.caller ticket) (.data frame)
          ∧ (reached.after .look).host.outbox
            = reached.host.outbox ++ [.transmitted ticket frame]
          ∧ ∃ l, reached.ComesToLine ticket (.data frame) later l := by
  intro ticket called
  let e : Errand := ⟨ticket, frame, .unacknowledged, none⟩
  have hunsent : called.host.sent ticket = [] :=
    (m.sent_after ticket (.send request)).trans (by rw [hm.unused_next.sent]; rfl)
  obtain ⟨frame', flow', hexamined', sent, reset, more, hsent, hnotes, hmore⟩ :=
    Moment.exchanged_of_result hm hresult
  obtain ⟨rfl, rfl⟩ := Prod.mk.inj (Except.ok.inj (hexamined.symm.trans hexamined'))
  have hsent : Exchanged m.host.config e sent o := hsent
  have hnotes : called.notes (Moment.marksOf ticket) events
    = sent ++ .ended e (.ok o) reset :: more := hnotes
  obtain ⟨again, rfl, hagain⟩ := hsent.exists_cons
  have hsome : called.notes (Moment.marksOf ticket) events ≠ [] := by
    rw [hnotes]
    nofun
  obtain ⟨before, later, rfl, hbefore, hissued, hwaits, hpending, move, hmove⟩ :=
    Moment.exists_first_step hm hexamined hsome
  have hbefore : called.notes (Moment.marksOf ticket) before = [] := hbefore
  obtain ⟨hmark, hsending, hlink, houtbox⟩ := Moment.sends_of_inLine rfl hwaits hpending hmove
  let sentAt := (called.run before).after .look
  -- what is noted is the transmission, and then what the run from there brings
  have hsplit : called.notes (Moment.marksOf ticket) (before ++ .look :: later)
      = .transmitted e frame :: sentAt.notes (Moment.marksOf ticket) later := by
    rw [Moment.notes_append, hbefore]
    show (called.run before).marksOf e.ticket .look ++ _ = _
    rw [hmark]
    rfl
  have hlater : OneWayAt e (False ∨ .stop ∈ later) (sentAt.notes (Moment.marksOf ticket) later)
    (sentAt.run later).host := hsending.run hissued later
  rw [hsplit] at hnotes
  have hrest := (List.cons.inj hnotes).2
  obtain ⟨rfl, ho⟩ := hlater.eq_nil_of_exchanged hagain hrest
  have hunsentYet : (called.run before).host.sent ticket = [] := by
    rw [called.sent_run ticket before, hunsent, hbefore]
    rfl
  refine ⟨ho.mono ?_, fun hcomplete => ?_, before, later, rfl, hunsentYet, hlink, houtbox, ?_⟩
  · rintro (hno | hmem)
    · exact hno.elim
    · exact List.mem_append_right _ (List.mem_cons_of_mem _ hmem)
  · have hunwanted : ¬ m.host.config.WantsReset e o := by
      rintro ⟨hfailed, _, _⟩
      rw [hcomplete] at hfailed
      cases hfailed
    rw [called.sent_run ticket, hunsent, hsplit, hrest, hmore hunwanted]
    rfl
  · have hreached : (called.run before).Reachable := (hm.after (.send request)).run before
    have hnoted : sentAt.notes (Moment.marksOf ticket) later ≠ [] := by
      rw [hrest]
      nofun
    exact hreached.exists_comesToLine hunsentYet hissued hlink hsending hnoted

/-- **A request that nothing answers is complete once its frame has been handed
    to the link**, whatever the line and the port do to it.  Whoever learns of
    an outcome has had the frame handed over, in one look, as the first of its
    call; a request that is reported as complete has not been handed over a
    second time.  If the line was free, the frame was sent at once; else it
    waited, and its wait was over before its turn was.  It was written exactly
    if the line was free when it came there and the port took its bytes.  If
    not, the outcome is the same: complete after one attempt, with no answers,
    unless the adapter has been stopped since.  And that is what every caller
    gets that stays, as long as time goes on and callers go on taking steps. -/
theorem unacknowledged_is_sent_once (events : List (Event π)) :
    let ticket := m.host.nextTicket
    let called := m.after (.send request)
    (∀ o, .ok o ∈ (called.run events).host.results ticket →
      (o = ⟨.complete, 1, none, none⟩ ∨ .stop ∈ events ∧ o = ⟨.failed, 1, none, none⟩)
      ∧ (o.state = .complete → (called.run events).host.sent ticket = [frame])
      ∧ ∃ before later, events = before ++ .look :: later
        ∧ let reached := called.run before
          reached.host.sent ticket = []
          ∧ (reached.after .look).adapter.link
            = reached.adapter.link.post (.caller ticket) (.data frame)
          ∧ (reached.after .look).host.outbox
            = reached.host.outbox ++ [.transmitted ticket frame]
          ∧ ∃ l, reached.ComesToLine ticket (.data frame) later l
            ∧ ((l.send (.data frame)).1 = .ok () ↔ l.line = .free
              ∧ (Link.writeOut (Frame.data frame).toBytes l.port).1 = .ok ()))
    ∧ (m.host.config.maxRetries < 0xFFFFFFFF → ∀ schedule : Nat → Event π,
      (∀ n, (schedule n).Spares ticket ∧ schedule n ≠ .stop) → called.Fair schedule →
        ∃ n, (called.run ((List.range n).map schedule)).host.results ticket
          = [.ok ⟨.complete, 1, none, none⟩]) := by
  intro ticket called
  constructor
  · intro o hresult
    obtain ⟨ho, honce, before, later, hevents, hunsent, hlink, houtbox, l, hline⟩ :=
      Moment.exists_sending hm hexamined hresult
    exact ⟨ho, honce, before, later, hevents, hunsent, hlink, houtbox, l, hline,
      Link.send_eq_ok_iff⟩
  · intro hmax schedule hstays hfair
    have hissued : ticket < called.host.nextTicket := m.issued_send request
    have hat := Moment.callAt_send hm.unused_next hexamined
    rw [← m.config_after (.send request)] at hmax hat
    obtain ⟨n, o, hresults⟩ :=
      hfair.exists_outcome (hm.after _) hmax (fun n => (hstays n).1) rfl hissued hat
    rw [Moment.along_eq_run] at hresults
    have hresult : .ok o ∈ (called.run ((List.range n).map schedule)).host.results ticket :=
      hresults ▸ List.mem_singleton_self _
    refine ⟨n, hresults.trans ?_⟩
    obtain ⟨rfl | ⟨hstop, _⟩, _⟩ := Moment.exists_sending hm hexamined hresult
    · rfl
    · -- nobody stops the adapter
      obtain ⟨k, _, hk⟩ := List.mem_map.mp hstop
      exact absurd hk (hstays k).2

end

/-- A started adapter whose port takes nothing any more. -/
def Moment.unwritable : Moment ScriptedPort :=
  Moment.started.run [.port fun p => { p with writeFails := true }]

/-- The frame that starts the watchdog of the module. -/
def Request.watchdogFrame : DataFrame := ⟨3, .request, 0xD2, [], 0x2E⟩

/-- The watchdog is reported as started, after one look that reports the fault
    of the write and one more. -/
theorem unacknowledged_is_sent_once_though_unwritten :
    let m := Moment.unwritable
    let called := m.after (.send .startWatchdog)
    let h := (called.run [.look, .look]).host
    m.Reachable
      ∧ examine m.host .startWatchdog = .ok (Request.watchdogFrame, .unacknowledged)
      ∧ h.results 0 = [.ok ⟨.complete, 1, none, none⟩]
      ∧ h.sent 0 = [Request.watchdogFrame]
      ∧ (called.adapter.link.send (.data Request.watchdogFrame)).1
        = .error (.transport "write failed")
      ∧ ∃ n, (called.run ((List.range n).map Event.tick)).host.results 0
        = [.ok ⟨.complete, 1, none, none⟩] := by
  intro m called h
  have hreachable : m.Reachable := Moment.reachable_started.run _
  have hexamined : examine m.host .startWatchdog
    = .ok (Request.watchdogFrame, .unacknowledged) := rfl
  have hresults : h.results 0 = [.ok ⟨.complete, 1, none, none⟩] := by decide
  obtain ⟨hlearns, hgets⟩ := unacknowledged_is_sent_once hreachable hexamined [.look, .look]
  obtain ⟨_, honce, _⟩ := hlearns _ (hresults ▸ List.mem_singleton_self _)
  refine ⟨hreachable, hexamined, hresults, honce rfl, rfl,
    hgets (by decide) Event.tick (fun n => ⟨Event.spares_tick 0 n, ?_⟩) (Moment.fair_tick _)⟩
  unfold Event.tick
  split <;> nofun

-- A frame that has to wait is written once the frame before it is complete.
example :
    let m := (Moment.started.run [.receive [0x01, 0x04, 0x01], .send .startWatchdog]).after .look
    let n := m.run [.receive [0x56, 0x01, 0xAD], .look]
    m.adapter.link.waiters = [(.caller 0, .data Request.watchdogFrame)]
      ∧ n.host.results 0 = [.ok ⟨.complete, 1, none, none⟩]
      ∧ (Frame.data Request.watchdogFrame).toBytes ∈ n.adapter.link.port.written := by
  decide

/-- So a request that is reported as complete need not have been written. -/
theorem unacknowledged_need_not_be_written :
    ¬ ∀ (m : Moment ScriptedPort) request frame events (o : Outcome), m.Reachable →
      examine m.host request = .ok (frame, .unacknowledged) →
      let called := m.after (.send request)
      .ok o ∈ (called.run events).host.results m.host.nextTicket → o.state = .complete →
      (Frame.data frame).toBytes ∈ (called.run events).adapter.link.port.written := by
  intro hwritten
  have hmem := hwritten Moment.unwritable .startWatchdog Request.watchdogFrame [.look, .look]
    ⟨.complete, 1, none, none⟩ (Moment.reachable_started.run _) rfl (by decide) rfl
  exact absurd hmem (by decide)

end ZWaveHost
