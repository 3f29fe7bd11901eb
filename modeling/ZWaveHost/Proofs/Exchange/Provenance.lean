/-
  ZWaveHost.Proofs.Exchange.Provenance — which frame a callback comes from.

  A callback is handed to the request in flight by its command id alone; no
  session id is compared.  So the callback of a request that is complete may
  have been meant for an earlier one.  What does hold is that it came while
  this request was in flight: it is the first of its command after the request
  was sent for the last time.

  Main facts: a run keeps what has happened since a turn began
  (`TurnLogged.run`), and so whoever gets an outcome has had its turn until
  then (`Moment.turn_of_result`); the callback of a complete request is in the
  log of that turn (`Turn.exists_callback_since_sent`).

  Main statement: the session id of a callback is that of the first frame
  heard (`callback_session_is_first_heard`).
-/
import ZWaveHost.Proofs.Command.SessionIds
import ZWaveHost.Proofs.Exchange.Callbacks
import ZWaveHost.Proofs.Exchange.Results

namespace ZWaveHost

open Adapter

variable {π : Type} [Port π]

/-! ## §1. Logs from the last transmission on -/

/-- The frame that was heard. -/
def Happening.frame? : Happening → Option Frame
  | .heard frame _ => some frame
  | _ => none

/-- A log with a transmission has a last one. -/
theorem exists_last_transmission {log : List Happening} (hsome : transmissionTimes log ≠ []) :
    ∃ before now e frame between, log = before ++ .transmitted now e frame :: between
      ∧ transmissionTimes between = [] := by
  induction log with
  | nil => exact absurd rfl hsome
  | cons first rest ih =>
    by_cases hrest : transmissionTimes rest = []
    · -- it is the first of the log
      cases first with
      | transmitted now e frame => exact ⟨[], now, e, frame, rest, rfl, hrest⟩
      | heard frame taken => exact absurd hrest hsome
      | ended e result => exact absurd hrest hsome
    · obtain ⟨before, now, e, frame, between, rfl, hnone⟩ := ih hrest
      exact ⟨first :: before, now, e, frame, between, rfl, hnone⟩

/-- **What has been heard since** is what stands behind the last transmission. -/
theorem heardSince_of_last {between : List Happening} (hnone : transmissionTimes between = [])
    (before : List Happening) (now : Nat) (e : Errand) (frame : DataFrame) :
    heardSince (before ++ .transmitted now e frame :: between)
      = between.filterMap Happening.frame? := by
  have hheard (frames : List Frame) : between.foldl Happening.hearing frames
      = frames ++ between.filterMap Happening.frame? := by
    -- by induction on what stands behind; no transmission clears what was heard
    induction between generalizing frames with
    | nil => exact (List.append_nil frames).symm
    | cons first rest ih =>
      cases first with
      | transmitted now e frame => cases hnone
      | heard frame taken =>
        show rest.foldl _ (frames ++ [frame]) = _
        rw [ih hnone, List.append_assoc]
        rfl
      | ended e result => exact ih hnone frames
  unfold heardSince
  rw [List.foldl_append]
  exact hheard []

/-! ## §2. What has happened since a turn began -/

/-- The caller with a ticket, while it has the turn, has had it since a point of
    the log. -/
def TurnLogged (ticket : Nat) (log : List Happening) (m : Moment π) : Prop :=
  ∀ x, m.host.active = some x → x.errand.ticket = ticket →
    ∃ past recent h₀ s, log = past ++ recent ∧ Turn x.errand h₀ recent m.host x s

namespace TurnLogged

variable {ticket : Nat} {log : List Happening} {m : Moment π}

/-- **Every event keeps the log of a turn.** -/
theorem after (hm : m.Reachable) (hl : TurnLogged ticket log m) (event : Event π) :
    TurnLogged ticket (log ++ m.happenings event) (m.after event) := by
  intro x hactive hticket
  cases hbefore : m.host.active with
  | none =>
    -- a turn begins with a look, and so does what is logged of it
    by_cases hlook : event = .look
    · rw [hlook] at hactive ⊢
      cases hwaiting : m.host.waiting with
      | nil =>
        have hnone : m.host.nextMove? m.now = none := by
          unfold Host.nextMove?
          simp only [hbefore, hwaiting]
        rw [(Moment.look_of_none hnone).1, hbefore] at hactive
        cases hactive
      | cons e rest =>
        obtain ⟨y, s, ht⟩ := Turn.begin hbefore hwaiting
        obtain rfl : y = x := Option.some.inj (ht.active.symm.trans hactive)
        rw [ht.errand]
        exact ⟨log, _, _, s, rfl, ht⟩
    · rw [Moment.active_of_none hbefore hlook] at hactive
      cases hactive
  | some y =>
    by_cases hspares : event.Spares y.errand.ticket
    · -- whoever has the turn afterwards had it before
      have hsame : x.errand = y.errand := by
        obtain ⟨_, _, _, hu⟩ := hm.underway hbefore
        obtain ⟨_, hnext⟩ := hu.after hspares hactive
        exact hnext.errand
      rw [hsame] at hticket ⊢
      obtain ⟨past, recent, h₀, s, rfl, ht⟩ := hl y hbefore hticket
      obtain ⟨t, hnext⟩ := ht.after hm.registered hspares hactive
      exact ⟨past, _, h₀, t, List.append_assoc _ _ _, hnext⟩
    · obtain rfl := Event.eq_abandon_of_not_spares hspares
      rw [Moment.active_abandon hbefore] at hactive
      cases hactive

/-- **A run keeps the log of a turn** that begins in it. -/
theorem run (hm : m.Reachable) (hnobody : ∀ x, m.host.active = some x → x.errand.ticket ≠ ticket)
    (events : List (Event π)) :
    TurnLogged ticket (m.notes Moment.happenings events) (m.run events) := by
  have hbase : m.Reachable ∧ TurnLogged ticket [] m :=
    ⟨hm, fun x hactive hticket => absurd hticket (hnobody x hactive)⟩
  exact (Moment.run_induction (P := fun log m => m.Reachable ∧ TurnLogged ticket log m)
    (fun _ _ event hl => ⟨hl.1.after event, hl.2.after hl.1 event⟩) events hbase).2

end TurnLogged

/-! ## §3. The end of an exchange -/

/-- A caller leaves while it has the turn. -/
theorem Host.active_of_finish {h : Host} {now : Nat} {e : Errand}
    {result : Except HostError Outcome} (hmove : h.nextMove? now = some (e, .finish result)) :
    ∃ x, h.active = some x ∧ x.errand = e ∧ h.move now x = .finish result := by
  cases hactive : h.active with
  | some x =>
    obtain ⟨herrand, hmoves⟩ := Host.nextMove?_of_active hactive hmove
    exact ⟨x, rfl, herrand.symm, hmoves.symm⟩
  | none =>
    -- a turn does not begin with an end
    cases hwaiting : h.waiting with
    | nil =>
      unfold nextMove? at hmove
      simp only [hactive, hwaiting] at hmove
      cases hmove
    | cons first rest =>
      rw [Host.nextMove?_of_inLine _ hactive hwaiting] at hmove
      cases hmove

/-- A request that is given up has failed. -/
theorem Sequence.state_of_attemptMove {s : Sequence} {o : Outcome} (hstate : s.state = .pending)
    (hmove : s.attemptMove = .finish (.ok o)) : o.state = .failed := by
  have hopen : s.isTerminal = false := isTerminal_eq_false_of_state hstate rfl
  have hfailed : s.outcome.state = .failed := by
    unfold outcome
    rw [if_neg (Bool.eq_false_iff.mp hopen)]
    exact s.enter_state .failed
  unfold attemptMove at hmove
  split at hmove
  · cases hmove
    exact hfailed
  · split at hmove
    · cases hmove
      exact hfailed
    · cases hmove

/-- **A caller that leaves with a complete outcome** leaves with its answers. -/
theorem Host.complete_of_move {h : Host} {now : Nat} {x : Exchange} {s : Sequence} {o : Outcome}
    (hflight : h.inFlight = some s) (hmove : h.move now x = .finish (.ok o))
    (hcomplete : o.state = .complete) : s.state = .complete ∧ o.callback = s.callback := by
  rcases Host.move_cases now x hflight with hleaves | ⟨hagain, _, _⟩ | ⟨hrest, _⟩
  · rw [hleaves] at hmove
    cases hmove
    obtain ⟨c, houtcome, _, _, _, rfl | rfl⟩ := outcome_eq_ofSequence s
    · rw [houtcome] at hcomplete ⊢
      exact ⟨hcomplete, rfl⟩
    · rw [houtcome] at hcomplete
      have hfailed : s.fail.state = .failed := s.enter_state .failed
      cases hfailed.symm.trans hcomplete
  · rw [hagain] at hmove
    have hfailed := Sequence.state_of_attemptMove rfl hmove
    cases hfailed.symm.trans hcomplete
  · rw [hrest] at hmove
    cases hmove

/-- **The end of an exchange** is a step of its caller. -/
theorem Moment.exists_finishing {m : Moment π} {events : List (Event π)} {e : Errand}
    {o : Outcome} {reset : Except HostError (DataFrame × Flow)}
    (hmem : .ended e (.ok o) reset ∈ m.notes (marksOf e.ticket) events) :
    ∃ before later, events = before ++ .look :: later
      ∧ (m.run before).host.nextMove? (m.run before).now = some (e, .finish (.ok o)) := by
  obtain ⟨before, event, later, hevents, hmark⟩ := exists_of_mem_notes hmem
  obtain ⟨rfl, e', move, hmove, hticket⟩ := steps_of_marksOf (List.ne_nil_of_mem hmark)
  refine ⟨before, later, hevents, ?_⟩
  rw [← hticket, marksOf_look hmove] at hmark
  cases move with
  | rest => cases hmark
  | transmit s => cases List.mem_singleton.mp hmark
  | finish result =>
    cases List.mem_singleton.mp hmark
    exact hmove

/-! ## §4. The callback of a complete request -/

/-- **The callback of a complete request** is the first of its command that was
    heard since the request was last sent. -/
theorem Turn.exists_callback_since_sent {e : Errand} {h₀ h : Host} {log : List Happening}
    {x : Exchange} {s : Sequence} (ht : Turn e h₀ log h x s) (hcomplete : s.state = .complete)
    (hflow : e.flow.hasCallback = true) :
    ∃ earlier now before f taken after command,
      log = earlier ++ .transmitted now e e.request :: (before ++ .heard (.data f) taken :: after)
      ∧ transmissionTimes (before ++ .heard (.data f) taken :: after) = []
      ∧ (∀ g taken, .heard g taken ∈ before → h₀.callback? e.request.commandId g = none)
      ∧ h₀.callback? e.request.commandId (.data f) = some command
      ∧ s.callback = some command := by
  have hsome : transmissionTimes log ≠ [] := by
    intro hnone
    have hpos := ht.transmissionTimes_pos
    rw [hnone] at hpos
    cases hpos
  obtain ⟨earlier, now, e', frame, between, rfl, hunsent⟩ := exists_last_transmission hsome
  obtain ⟨rfl, rfl⟩ := ht.own now e' frame (List.mem_append_right _ List.mem_cons_self)
  obtain ⟨command, hheld, hfirst⟩ := (ht.decided hflow).complete hcomplete
  rw [heardSince_of_last hunsent, Sequence.commandId, ht.follows.request] at hfirst
  obtain ⟨frames, frame, _, hframes, hcallback, hnone⟩ := List.findSome?_eq_some_iff.mp hfirst
  -- the frames before it stand before it in the log
  obtain ⟨before, _, rfl, hbefore, hfrom⟩ := List.filterMap_eq_append_iff.mp hframes
  obtain ⟨silent, happening, after, rfl, hsilent, hframe, _⟩ := List.filterMap_eq_cons_iff.mp hfrom
  obtain ⟨f, _, rfl, _⟩ := Host.callback?_eq_some_iff.mp hcallback
  cases happening with
  | heard g taken =>
    obtain rfl := Option.some.inj hframe
    rw [← List.append_assoc] at hunsent ⊢
    refine ⟨earlier, now, before ++ silent, f, taken, after, command, rfl, hunsent, ?_, hcallback,
      hheld⟩
    intro g taken' hmem
    rcases List.mem_append.mp hmem with hold | hlast
    · exact hnone g (hbefore ▸ List.mem_filterMap.mpr ⟨_, hold, rfl⟩)
    · cases hsilent _ hlast
  | transmitted _ _ _ => cases hframe
  | ended _ _ => cases hframe

/-- **A caller that gets an outcome** has had its turn until then. -/
theorem Moment.turn_of_result {m : Moment π} (hm : m.Reachable) {request : Request}
    {events : List (Event π)} {o : Outcome}
    (hresult : .ok o ∈ ((m.after (.send request)).run events).host.results m.host.nextTicket) :
    ∃ frame flow, examine m.host request = .ok (frame, flow)
      ∧ let e : Errand := ⟨m.host.nextTicket, frame, flow, none⟩
      ∃ past recent later now h₀ h x s,
        (m.after (.send request)).notes happenings events
          = past ++ recent ++ .ended e (.ok o) :: later
        ∧ Turn e h₀ recent h x s ∧ h₀.registry = m.host.registry
        ∧ h.move now x = .finish (.ok o) := by
  let called := m.after (.send request)
  obtain ⟨frame, flow, hexamined, sent, reset, more, _, hnotes, _⟩ := exchanged_of_result hm hresult
  let e : Errand := ⟨m.host.nextTicket, frame, flow, none⟩
  have hended : .ended e (.ok o) reset ∈ called.notes (marksOf e.ticket) events := by
    show _ ∈ (m.after (.send request)).notes (marksOf m.host.nextTicket) events
    rw [hnotes]
    exact List.mem_append_right _ List.mem_cons_self
  obtain ⟨before, later, rfl, hmove⟩ := exists_finishing hended
  obtain ⟨x, hactive, herrand, hmoves⟩ := Host.active_of_finish hmove
  -- nobody had this ticket when the call was made
  have hnobody (y : Exchange) (hy : called.host.active = some y) :
      y.errand.ticket ≠ m.host.nextTicket :=
    Host.ticket_ne_of_pending hm.unused_next.pending
      ((m.agrees_send request).active.symm.trans hy)
  obtain ⟨past, recent, h₀, s, hlog, ht⟩ :=
    TurnLogged.run (hm.after _) hnobody before x hactive (congrArg Errand.ticket herrand)
  rw [herrand] at ht
  have hregistry : h₀.registry = m.host.registry :=
    ht.registry.symm.trans ((called.registry_run before).trans (m.constants_after _).2)
  have hlast : (called.run before).happenings .look = [.ended e (.ok o)] :=
    (look_of_nextMove hmove).2
  refine ⟨frame, flow, hexamined, past, recent,
    ((called.run before).after .look).notes happenings later, (called.run before).now, h₀,
    (called.run before).host, x, s, ?_, ht, hregistry, hmoves⟩
  rw [notes_append, hlog]
  show _ ++ ((called.run before).happenings .look ++ _) = _
  rw [hlast]
  rfl

/-- **The session id of a callback is that of the first callback heard.**
    However often a request that carries a session id is sent, and whatever
    else happens: if its caller learns that it is complete, and of a callback
    with a session id, then the callback is the first of the request's command
    that was heard after the request had been sent for the last time, and the
    id is the first byte in that frame.  So it is the request's own exactly if
    that frame carries it; the request is never compared with it.  With the
    standard registry there always is such a callback. -/
theorem callback_session_is_first_heard {m : Moment π} (hm : m.Reachable) {request : Request}
    {session : UInt8} (hsession : request.session? = some session) (events : List (Event π))
    {o : Outcome}
    (hresult : .ok o ∈ ((m.after (.send request)).run events).host.results m.host.nextTicket)
    (hcomplete : o.state = .complete) :
    (m.host.registry = .standard → ∃ id, o.session? = some id)
    ∧ ∀ id, o.session? = some id →
      ∃ frame flow, examine m.host request = .ok (frame, flow)
        ∧ let e : Errand := ⟨m.host.nextTicket, frame, flow, none⟩
        ∃ earlier now before f taken after later,
          (m.after (.send request)).notes Moment.happenings events
            = earlier ++ .transmitted now e frame :: (before ++ .heard (.data f) taken :: after)
              ++ .ended e (.ok o) :: later
          ∧ transmissionTimes (before ++ .heard (.data f) taken :: after) = []
          ∧ (∀ g taken, .heard g taken ∈ before → m.host.callback? request.commandId g = none)
          ∧ m.host.callback? request.commandId (.data f) = o.callback
          ∧ f.payload.head? = some id
          ∧ (id = session ↔ f.payload.head? = some session) := by
  obtain ⟨frame, flow, hexamined, past, recent, later, _, h₀, h, x, s, hnotes, ht, hregistry,
    hmoves⟩ := Moment.turn_of_result hm hresult
  obtain ⟨hframe, entry, hentry, hflows⟩ := knows_of_examine hexamined
  obtain ⟨hstate, hcallback⟩ := Host.complete_of_move ht.inFlight hmoves hcomplete
  constructor
  · intro hstandard
    obtain ⟨found, kind, hfound, hhas, _, _⟩ := Request.standard_entry hsession
    have hflow : flow.hasCallback = true := by
      rw [hstandard, hfound] at hentry
      rw [← hflows, ← Option.some.inj hentry]
      exact hhas
    obtain ⟨_, _, _, f, _, _, command, _, _, _, hfirst, hheld⟩ :=
      ht.exists_callback_since_sent hstate hflow
    obtain ⟨_, _, hf, _, hkind, hid, hread⟩ := Host.callback?_eq_some_iff.mp hfirst
    cases hf
    obtain ⟨id, hid⟩ := Host.exists_session_of_read? (hregistry.trans hstandard) hsession hkind
      (hid.trans hframe) hread
    refine ⟨id, ?_⟩
    unfold Outcome.session?
    rw [hcallback, hheld]
    exact hid
  · intro id hsome
    have hflow : flow.hasCallback = true := by
      by_contra hnot
      unfold Outcome.session? at hsome
      rw [hcallback, ht.follows.noCallback (Bool.eq_false_iff.mpr hnot)] at hsome
      cases hsome
    obtain ⟨earlier, now, before, f, taken, after, command, rfl, hunsent, hnone, hfirst, hheld⟩ :=
      ht.exists_callback_since_sent hstate hflow
    have hcommand : command.session? = some id := by
      unfold Outcome.session? at hsome
      rw [hcallback, hheld] at hsome
      exact hsome
    have hhead : f.payload.head? = some id := by
      obtain ⟨_, _, hf, _, _, _, hread⟩ := Host.callback?_eq_some_iff.mp hfirst
      cases hf
      exact Host.head?_of_read? hread hcommand
    rw [← Host.callback?_congr hregistry, ← hframe, hcallback, hheld]
    refine ⟨frame, flow, hexamined, past ++ earlier, now, before, f, taken, after, later, ?_,
      hunsent, hnone, hfirst, hhead, ?_⟩
    · rw [hnotes, List.append_assoc past earlier]
    · rw [hhead, Option.some.injEq]

/-- The ACK, the response and the callback with session id 1 to data that have
    been sent. -/
def lateAnswers : List (Event ScriptedPort) :=
  [.receive [0x06], .receive [0x01, 0x04, 0x01, 0x13, 0x01, 0xE8],
   .receive [0x01, 0x05, 0x00, 0x13, 0x01, 0x00, 0xE8]]

/-- Data with session id 1 have been sent, and the callback has not come in time. -/
def Moment.awaitsLateCallback : Moment ScriptedPort :=
  (new 0 {} { Config.default with softResetOnFailure := false }
      ⟨by decide, by decide, by decide⟩ .standard).run
    ([.start, .send (.sendData 5 [0x20, 0x01] .ack 1), .look] ++ lateAnswers.take 2
      ++ [.pass 30000, .look])

/-- What the next caller learns, whose data have session id 2. -/
def Outcome.ofLateCallback : Outcome where
  state := .complete
  attempts := 1
  response := some (.sendDataAccepted ⟨true⟩)
  callback := some (.sendDataComplete ⟨⟨1, .completeOk, []⟩⟩)

/-- The late callback completes the next request, and the id of the first in
    the frame is all that its caller gets. -/
theorem callback_session_is_first_heard_though_late :
    let m := Moment.awaitsLateCallback
    let request := Request.sendData 5 [0x20, 0x01] .ack 2
    let events := [.look] ++ lateAnswers ++ [.look]
    m.Reachable ∧ request.session? = some 2 ∧ m.host.registry = .standard
      ∧ .ok .ofLateCallback ∈ ((m.after (.send request)).run events).host.results 1
      ∧ Outcome.ofLateCallback.session? = some 1
      ∧ ∃ f, m.host.callback? request.commandId (.data f) = Outcome.ofLateCallback.callback
        ∧ f.payload.head? = some 1 := by
  intro m request events
  have hreachable : m.Reachable := ⟨_, _, _, _, _, _, rfl⟩
  have hsession : request.session? = some 2 := rfl
  have hresult : .ok .ofLateCallback ∈ ((m.after (.send request)).run events).host.results 1 := by
    decide
  obtain ⟨_, hheard⟩ := callback_session_is_first_heard hreachable hsession events hresult rfl
  obtain ⟨_, _, _, _, _, _, f, _, _, _, _, _, _, hcallback, hhead, _⟩ := hheard 1 rfl
  exact ⟨hreachable, hsession, rfl, hresult, rfl, f, hcallback, hhead⟩

/-- So the session id of a callback need not be that of the request. -/
theorem callback_session_need_not_be_own :
    ¬ ∀ (m : Moment ScriptedPort) request session events (o : Outcome), m.Reachable →
      request.session? = some session →
      .ok o ∈ ((m.after (.send request)).run events).host.results m.host.nextTicket →
      o.state = .complete → o.session? = some session := by
  intro hown
  have hsame := hown Moment.awaitsLateCallback (.sendData 5 [0x20, 0x01] .ack 2) 2
    ([.look] ++ lateAnswers ++ [.look]) .ofLateCallback ⟨_, _, _, _, _, _, rfl⟩ rfl
    (by decide) rfl
  cases hsame

end ZWaveHost
