/-
  ZWaveHost.Proofs.Exchange.Stage — one exchange of a call.

  The errand of a call first waits in line while other callers come and go,
  and then has the turn (`Stage`).

  Main fact: as long as its caller stays, an event leaves the exchange where
  it is, sends its request once more, or ends it with an outcome
  (`Stage.goes`).
-/
import ZWaveHost.Proofs.Exchange.Course
import ZWaveHost.Proofs.Run.CallNotes

namespace ZWaveHost

open Adapter

variable {π : Type} [Port π]

/-! ## §1. Where an exchange stands -/

/-- An outcome gives a true account of an exchange with so many transmissions,
    at least one. -/
structure Outcome.Counts (c : Config) (n : Nat) (o : Outcome) : Prop where
  pos : 1 ≤ n
  state : c.maxRetries < 0xFFFFFFFF → o.state = .complete ∨ o.state = .failed
  attempts : c.maxRetries < 0xFFFFFFFF → o.attempts.toNat = n

/-- An errand waits in line, or has the turn and has been sent so many times. -/
inductive Stage (c : Config) (e : Errand) (n : Nat) (h : Host) : Prop
  | inLine (hnone : n = 0) (hwaits : e ∈ h.waiting)
  | onTurn (h₀ : Host) (log : List Happening) (x : Exchange) (s : Sequence)
    (hconfig : h₀.config = c) (hcount : n = (transmissionTimes log).length)
    (hu : Underway e h₀ log h x s)

/-- No exchange has more transmissions than the settings allow. -/
theorem Underway.length_le {e : Errand} {h₀ h : Host} {log : List Happening} {x : Exchange}
    {s : Sequence} (hu : Underway e h₀ log h x s) (hmax : h₀.config.maxRetries < 0xFFFFFFFF) :
    (transmissionTimes log).length ≤ h₀.config.maxRetries.toNat := by
  rw [← hu.counted hmax]
  exact UInt32.le_iff_toNat_le.mp hu.attempt_le

theorem Stage.le {c : Config} {e : Errand} {n : Nat} {h : Host} (hs : Stage c e n h)
    (hmax : c.maxRetries < 0xFFFFFFFF) : n ≤ c.maxRetries.toNat := by
  cases hs with
  | inLine hnone hwaits =>
    rw [hnone]
    exact Nat.zero_le _
  | onTurn h₀ log x s hconfig hcount hu =>
    rw [← hconfig] at hmax ⊢
    rw [hcount]
    exact hu.length_le hmax

/-- What an event may do to the exchange of an errand. -/
inductive Stage.Goes (c : Config) (e : Errand) (n : Nat) (m : Moment π) (event : Event π) : Prop
  | waits (hmarks : m.marksOf e.ticket event = []) (hstage : Stage c e n (m.after event).host)
    (hagrees : Host.AgreesOn e.ticket m.host (m.after event).host)
  | transmits (hmarks : m.marksOf e.ticket event = [.transmitted e e.request])
    (hstage : Stage c e (n + 1) (m.after event).host)
    (hpending : (m.after event).host.pending e.ticket = [e])
    (hresults : (m.after event).host.results e.ticket = m.host.results e.ticket)
  | ends (o : Outcome) (hcounts : o.Counts c n)
    (hmarks : m.marksOf e.ticket event = [.ended e (.ok o) (examine m.host .softReset)])
    (hafter : (m.after event).host = conclude m.host.left e (.ok o))
    (hpending : m.host.left.pending e.ticket = [])

/-! ## §2. Errands in line -/

/-- The end of an exchange leaves the line in place. -/
theorem mem_waiting_conclude {h : Host} {e : Errand} (hmem : e ∈ h.waiting) (e' : Errand)
    (result : Except HostError Outcome) : e ∈ (conclude h e' result).waiting := by
  unfold conclude
  split
  · exact hmem
  · exact hmem
  · split
    · exact List.mem_append_left _ hmem
    · exact hmem

namespace Moment

variable {m : Moment π} {e : Errand} {move : Move}

omit [Port π] in
/-- **An errand whose call has no other** makes the moves of its call. -/
theorem nextMove_of_pending (hpending : m.host.pending e.ticket = [e]) {e' : Errand}
    (hmove : m.host.nextMove? m.now = some (e', move)) (hticket : e'.ticket = e.ticket) :
    e' = e ∧ m.host.mover.waiting.filter (·.ticket = e.ticket) = [] := by
  unfold Host.pending at hpending
  rw [Host.callers_of_nextMove hmove, List.filter_cons_of_pos (by simpa using hticket)]
    at hpending
  exact List.cons.inj hpending

/-- A caller that waits on stays where it is. -/
theorem agreesOn_rest (hmove : m.host.nextMove? m.now = some (e, .rest)) (ticket : Nat) :
    Host.AgreesOn ticket m.host (m.after .look).host := by
  obtain ⟨hactive, hwaiting⟩ := Host.mover_of_rest hmove
  obtain ⟨_, _, hmover⟩ := m.host.mover_eq
  have hsame : m.host.SameCalls m.host.mover :=
    .of_outbox hactive hwaiting (by rw [hmover]) (by rw [hmover])
  rw [(look_of_nextMove hmove).1]
  exact hsame.agreesOn ticket

/-- **A caller that stays** keeps its place, and so does everybody behind it. -/
theorem callers_of_stays (hmove : m.host.nextMove? m.now = some (e, move))
    (hstays : ∀ result, move ≠ .finish result) :
    (m.after .look).host.callers = m.host.callers := by
  have hcallers := Host.callers_of_nextMove hmove
  rw [(look_of_nextMove hmove).1]
  cases move with
  | rest =>
    obtain ⟨hactive, hwaiting⟩ := Host.mover_of_rest hmove
    show (m.host.mover.active.map _).toList ++ m.host.mover.waiting = _
    rw [hactive, hwaiting]
    rfl
  | transmit s => exact hcallers.symm
  | finish result => exact absurd rfl (hstays result)

/-- **A caller that sends its request** begins to wait for an answer, every
    rejection so far having been seen. -/
theorem look_of_transmit {s : Sequence}
    (hmove : m.host.nextMove? m.now = some (e, .transmit s)) :
    ∃ waiting permit, (m.after .look).host
      = ({ m.host with
          waiting := waiting
          permit := permit
          inFlight := some s
          active := some ⟨e, m.host.rejections, m.now + m.host.config.timeout⟩ } : Host).report
        (.transmitted e.ticket s.request) := by
  obtain ⟨waiting, permit, hmover⟩ := m.host.mover_eq
  have hafter := (look_of_nextMove hmove).1
  rw [hmover] at hafter
  exact ⟨waiting, permit, hafter⟩

/-- A caller that leaves gives up its turn. -/
theorem active_of_finish {result : Except HostError Outcome}
    (hmove : m.host.nextMove? m.now = some (e, .finish result)) :
    (m.after .look).host.active = none := by
  rw [(look_of_nextMove hmove).1]
  exact conclude_active m.host.left e result

omit [Port π] in
/-- **The first move of an errand in line** begins its turn. -/
theorem begins_of_inLine (hwaits : e ∈ m.host.waiting) (hpending : m.host.pending e.ticket = [e])
    (hmove : m.host.nextMove? m.now = some (e, move)) :
    m.host.active = none ∧ m.host.waiting = e :: m.host.mover.waiting := by
  obtain ⟨_, hrest⟩ := nextMove_of_pending hpending hmove rfl
  have hcallers := Host.callers_of_nextMove hmove
  unfold Host.callers at hcallers
  have hactive : m.host.active = none := by
    cases hactive : m.host.active with
    | none => rfl
    | some x =>
      -- whoever had the turn would have left the errand in line
      rw [hactive] at hcallers
      have hline : m.host.waiting = m.host.mover.waiting := (List.cons.inj hcallers).2
      rw [hline] at hwaits
      exact absurd (decide_eq_true rfl) (List.filter_eq_nil_iff.mp hrest e hwaits)
  rw [hactive] at hcallers
  exact ⟨hactive, hcallers⟩

/-- An errand in line stays in line while others move on. -/
theorem waiting_of_not_steps {event : Event π} (hwaits : e ∈ m.host.waiting)
    (hspares : event.Spares e.ticket) (hother : ¬ m.Steps e.ticket event) :
    e ∈ (m.after event).host.waiting := by
  by_cases hmoves : event.MovesCalls
  · cases event with
    | send request =>
      cases hexamined : examine m.host request with
      | error error => rw [send_of_error hexamined]; exact hwaits
      | ok sendable => rw [send_of_ok hexamined]; exact List.mem_append_left _ hwaits
    | abandon t =>
      refine List.mem_filter.mpr ⟨hwaits, ?_⟩
      exact decide_eq_true hspares.symm
    | look =>
      cases hmove : m.host.nextMove? m.now with
      | none =>
        rw [(look_of_none hmove).1]
        exact hwaits
      | some next =>
        obtain ⟨e', move⟩ := next
        have hbehind : e ∈ m.host.mover.waiting := by
          have hmem : e ∈ m.host.callers := List.mem_append_right _ hwaits
          rw [Host.callers_of_nextMove hmove] at hmem
          rcases List.mem_cons.mp hmem with rfl | hbehind
          · exact absurd ⟨rfl, e, move, hmove, rfl⟩ hother
          · exact hbehind
        rw [(look_of_nextMove hmove).1]
        cases move with
        | rest => exact hbehind
        | transmit s => exact hbehind
        | finish result =>
          exact mem_waiting_conclude (show e ∈ m.host.left.waiting from hbehind) e' result
    | _ => exact hmoves.elim
  · rw [(m.sameCalls_after hmoves).waiting]
    exact hwaits

end Moment

/-! ## §3. What an event does to an exchange -/

namespace Stage

variable {c : Config} {e : Errand} {n : Nat} {m : Moment π}

/-- A caller that sends its request keeps its turn. -/
theorem goes_of_transmit {s : Sequence} (hpending : m.host.pending e.ticket = [e])
    (hmove : m.host.nextMove? m.now = some (e, .transmit s)) {h₀ : Host} {log : List Happening}
    {x : Exchange} {t : Sequence} (hconfig : h₀.config = c)
    (hcount : n + 1 = (transmissionTimes log).length)
    (hu : Underway e h₀ log (m.after .look).host x t) : Goes c e n m .look := by
  have hafter := (Moment.look_of_nextMove hmove).1
  have hrequest : s.request = e.request := by
    have hflight := hu.inFlight
    rw [hafter] at hflight
    have hflight : some s = some t := hflight
    rw [Option.some.inj hflight]
    exact hu.follows.request
  obtain ⟨_, _, hmover⟩ := m.host.mover_eq
  refine .transmits ?_ (.onTurn h₀ log x t hconfig hcount hu) ?_ ?_
  · rw [Moment.marksOf_look hmove, Move.callMarks, hrequest]
  · unfold Host.pending
    rw [Moment.callers_of_stays hmove (fun _ h => by cases h)]
    exact hpending
  · rw [hafter]
    refine (Host.results_report _ _ _).trans ((List.append_nil _).trans ?_)
    exact congrArg (List.filterMap _) (by rw [hmover])

/-- A caller that leaves has no other errand. -/
theorem goes_of_finish {o : Outcome} (hcounts : o.Counts c n)
    (hpending : m.host.pending e.ticket = [e])
    (hmove : m.host.nextMove? m.now = some (e, .finish (.ok o))) : Goes c e n m .look :=
  .ends o hcounts (Moment.marksOf_look hmove) (Moment.look_of_nextMove hmove).1
    (Moment.nextMove_of_pending hpending hmove rfl).2

/-- **A look of the caller in line** begins its turn with a transmission. -/
theorem goes_of_inLine (hwaits : e ∈ m.host.waiting) (hpending : m.host.pending e.ticket = [e])
    {move : Move} (hmove : m.host.nextMove? m.now = some (e, move))
    (hconfig : m.host.config = c) : Goes c e 0 m .look := by
  obtain ⟨hactive, hcallers⟩ := Moment.begins_of_inLine hwaits hpending hmove
  obtain ⟨x, t, hu⟩ := Underway.begin hactive hcallers
  have hlog := (Moment.look_of_nextMove hmove).2
  rw [hlog] at hu
  -- the exchange is under way after this look, so it was a transmission
  cases move with
  | rest =>
    have hstill := (Host.mover_of_rest hmove).1.trans hactive
    have hturn := hu.active
    rw [(Moment.look_of_nextMove hmove).1] at hturn
    have hnone := hturn.symm.trans hstill
    cases hnone
  | transmit s => exact goes_of_transmit hpending hmove hconfig rfl hu
  | finish result =>
    have hnone := hu.active.symm.trans (Moment.active_of_finish hmove)
    cases hnone

/-- **A look of the caller whose turn it is** lets it wait on, send its request
    once more, or leave with an outcome. -/
theorem goes_of_onTurn {h₀ : Host} {log : List Happening} {x : Exchange} {s : Sequence}
    (hconfig : h₀.config = c) (hcount : n = (transmissionTimes log).length)
    (hu : Underway e h₀ log m.host x s) (hpending : m.host.pending e.ticket = [e]) {move : Move}
    (hmove : m.host.nextMove? m.now = some (e, move)) : Goes c e n m .look := by
  have hlog := (Moment.look_of_nextMove hmove).2
  have hleft {result : Except HostError Outcome} {x' : Exchange}
      (hfinish : m.host.nextMove? m.now = some (e, .finish result)) :
      (m.after .look).host.active ≠ some x' := by
    rw [Moment.active_of_finish hfinish]
    nofun
  -- what the look has done to the exchange and to the log tells which move it was
  cases hu.continues_look with
  | waits t ht htimes hearly =>
    cases move with
    | rest =>
      exact .waits (Moment.marksOf_look hmove)
        (.onTurn h₀ _ x t hconfig (hcount.trans (congrArg List.length htimes.symm)) ht)
        (Moment.agreesOn_rest hmove e.ticket)
    | transmit s' =>
      rw [hlog, transmissionTimes_append] at htimes
      exact absurd (List.append_right_eq_self.mp htimes) (List.cons_ne_nil _ _)
    | finish result => exact absurd ht.active (hleft hmove)
  | transmits x' t _ ht htimes _ =>
    cases move with
    | rest =>
      rw [hlog, transmissionTimes_append] at htimes
      cases List.append_cancel_left htimes
    | transmit s' =>
      refine goes_of_transmit hpending hmove hconfig ?_ ht
      rw [htimes, List.length_append, hcount]
      rfl
    | finish result => exact absurd ht.active (hleft hmove)
  | ends o _ hended hend =>
    rw [hlog] at hended
    cases move with
    | rest => cases hended
    | transmit s' => cases hended
    | finish result =>
      obtain rfl : result = .ok o := (Happening.ended.inj (List.cons.inj hended).1).2
      have haccounts (hmax : c.maxRetries < 0xFFFFFFFF) : o.Accounts e h₀ log :=
        hend.accounts (hconfig.symm ▸ hmax)
      refine goes_of_finish ⟨?_, fun hmax => (haccounts hmax).state, fun hmax => ?_⟩ hpending hmove
      · rw [hcount]
        exact hu.transmissionTimes_pos
      · rw [hcount]
        exact (haccounts hmax).attempts

/-- **What any event does to the exchange**, as long as its caller stays. -/
theorem goes (hs : Stage c e n m.host) (hpending : m.host.pending e.ticket = [e])
    (hconfig : m.host.config = c) (hissued : e.ticket < m.host.nextTicket) {event : Event π}
    (hspares : event.Spares e.ticket) : Goes c e n m event := by
  by_cases hsteps : m.Steps e.ticket event
  · obtain ⟨rfl, e', move, hmove, hticket⟩ := hsteps
    obtain ⟨rfl, _⟩ := Moment.nextMove_of_pending hpending hmove hticket
    cases hs with
    | inLine hnone hwaits =>
      rw [hnone]
      exact goes_of_inLine hwaits hpending hmove hconfig
    | onTurn h₀ log x s hc hcount hu => exact goes_of_onTurn hc hcount hu hpending hmove
  · have hagrees := Moment.agreesOn_after hspares
      (fun request _ => (Nat.ne_of_lt hissued).symm) hsteps
    refine .waits (Moment.marksOf_of_not_steps hsteps) ?_ hagrees
    cases hs with
    | inLine hnone hwaits =>
      exact .inLine hnone (Moment.waiting_of_not_steps hwaits hspares hsteps)
    | onTurn h₀ log x s hc hcount hu =>
      -- a look that is not a step of this caller is not a step at all
      have hsilent : event = .look → m.happenings event = [] := by
        rintro rfl
        cases hmove : m.host.nextMove? m.now with
        | none => exact (Moment.look_of_none hmove).2
        | some next =>
          obtain ⟨e', move⟩ := next
          obtain ⟨rfl, _⟩ := Host.nextMove?_of_active hu.active hmove
          exact absurd ⟨rfl, _, move, hmove, congrArg Errand.ticket hu.errand⟩ hsteps
      cases hu.continues hspares with
      | waits t ht htimes _ =>
        exact .onTurn h₀ _ x t hc (hcount.trans (congrArg List.length htimes.symm)) ht
      | transmits x' t hlook ht htimes _ =>
        rw [hsilent hlook, List.append_nil] at htimes
        have hlength := congrArg List.length htimes
        rw [List.length_append] at hlength
        exact absurd hlength (Nat.ne_of_lt (Nat.lt_succ_self _))
      | ends o hlook hended hend =>
        rw [hsilent hlook] at hended
        cases hended

end Stage

end ZWaveHost
