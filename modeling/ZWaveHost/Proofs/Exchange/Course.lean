/-
  ZWaveHost.Proofs.Exchange.Course — the runs of an exchange.

  An exchange begins when an errand's turn begins, and goes on, with
  whatever events in whatever order, while the turn lasts (`ExchangeRun`).

  Main fact: an event leaves the caller waiting, makes it send the request
  once more, for one of three reasons, or ends the exchange
  (`Underway.continues`), so every run is under way or has ended
  (`ExchangeRun.course`).
-/
import ZWaveHost.Proofs.Exchange.Account

namespace ZWaveHost

open Adapter

variable {π : Type} [Port π]

/-! ## §1. Runs -/

/-- The runs of the exchange of an errand whose turn comes next at `m₀`: what
    has been logged since, and the moment that has been reached. -/
inductive ExchangeRun (e : Errand) (m₀ : Moment π) : List Happening → Moment π → Prop
  | begin : ExchangeRun e m₀ (m₀.happenings .look) (m₀.after .look)
  | next {log m} (run : ExchangeRun e m₀ log m) (hturn : m.host.active.isSome = true)
      (event : Event π) (hspares : event.Spares e.ticket) :
      ExchangeRun e m₀ (log ++ m.happenings event) (m.after event)

/-! ## §2. What an event does to an exchange -/

/-- Since the last transmission, as much time has passed as the settings allow. -/
def TimedOut (c : Config) (log : List Happening) (now : Nat) : Prop :=
  ∃ sent, (transmissionTimes log).getLast? = some sent ∧ sent + c.timeout ≤ now

/-- Why a request is sent once more. -/
inductive Renewal (c : Config) (log : List Happening) (now : Nat) (s : Sequence) : Prop
  | unacknowledged (hstate : s.state = .waitingForAck) (hflag : c.retryOnAckTimeout = true)
      (hdue : TimedOut c log now)
  | unanswered (hstate : s.state = .waitingForResponse ∨ s.state = .waitingForCallback)
      (hflag : c.retryOnResponseTimeout = true) (hdue : TimedOut c log now)
  | rejected (hstate : s.state = .waitingForAck) (hflag : c.retransmitOnNak = true)
      (hheard : .nak ∈ heardSince log ∨ .can ∈ heardSince log)

/-- An exchange has ended with an outcome. -/
structure EndsWith (e : Errand) (h₀ : Host) (log : List Happening) (h : Host) (o : Outcome) :
    Prop where
  concluded : ∃ h' : Host, h'.active = none ∧ h'.inFlight = none ∧ h = conclude h' e (.ok o)
  transmissions : h.transmissions = h₀.transmissions
    ++ List.replicate (transmissionTimes log).length (e.ticket, e.request)
  accounts : h₀.config.maxRetries < 0xFFFFFFFF → o.Accounts e h₀ log

/-- What an event may do to an exchange that is under way. -/
inductive Continues (e : Errand) (h₀ : Host) (log : List Happening) (m : Moment π) (x : Exchange)
    (s : Sequence) (event : Event π) : Prop
  | waits (t : Sequence)
      (hu : Underway e h₀ (log ++ m.happenings event) (m.after event).host x t)
      (htimes : transmissionTimes (log ++ m.happenings event) = transmissionTimes log)
      (hearly : event = .look → m.now < x.deadline)
  | transmits (x' : Exchange) (t : Sequence) (hlook : event = .look)
      (hu : Underway e h₀ (log ++ m.happenings event) (m.after event).host x' t)
      (htimes : transmissionTimes (log ++ m.happenings event) = transmissionTimes log ++ [m.now])
      (hrenewal : Renewal h₀.config log m.now s)
  | ends (o : Outcome) (hlook : event = .look) (hlog : m.happenings event = [.ended e (.ok o)])
      (hend : EndsWith e h₀ log (m.after event).host o)

theorem conclude_transmissions (h : Host) (e : Errand) (result : Except HostError Outcome) :
    (conclude h e result).transmissions = h.transmissions := by
  unfold conclude
  split
  · exact Host.transmissions_report_finished h _ _
  · exact Host.transmissions_report_finished h _ _
  · split
    · rfl
    · exact Host.transmissions_report_finished h _ _

theorem conclude_active (h : Host) (e : Errand) (result : Except HostError Outcome) :
    (conclude h e result).active = h.active := by
  obtain ⟨_, _, heq⟩ := conclude_eq h e result
  rw [heq]

theorem EndsWith.active_eq {e : Errand} {h₀ h : Host} {log : List Happening} {o : Outcome}
    (hend : EndsWith e h₀ log h o) : h.active = none := by
  rcases hend.concluded with ⟨h', hnone, _, heq⟩
  rw [heq, conclude_active]
  exact hnone

namespace Underway

variable {e : Errand} {h₀ h : Host} {log : List Happening} {m : Moment π} {x : Exchange}
  {s : Sequence}

theorem leave (hu : Underway e h₀ log h x s) (now : Nat) (l : Link π) {o : Outcome}
    (ho : h₀.config.maxRetries < 0xFFFFFFFF → o.Accounts e h₀ log) :
    EndsWith e h₀ log (perform now e ⟨l, h⟩ (.finish (.ok o))).host o where
  concluded := ⟨{ h with active := none, inFlight := none }, rfl, rfl, rfl⟩
  transmissions := (conclude_transmissions _ e (.ok o)).trans hu.transmissions
  accounts := ho

/-- A caller that wants its request sent once more has a reason. -/
theorem renewal {now : Nat} (hu : Underway e h₀ log h x s)
    (hcause : isFresh h x s = true ∨ x.deadline ≤ now ∧ retriesAtDeadline h.config s = true) :
    Renewal h₀.config log now s := by
  rcases hcause with hfresh | ⟨hdue, hretries⟩
  · -- a rejection that was not seen at the transmission has been heard since
    rcases isFresh_eq_true_iff.mp hfresh with ⟨hne, hstate⟩
    rcases hu.rejected hne with ⟨hflag, hheard⟩
    exact .rejected hstate hflag hheard
  · have htimedOut : TimedOut h₀.config log now := by
      rcases hu.deadline with ⟨sent, hsent, hdeadline⟩
      exact ⟨sent, hsent, by omega⟩
    rw [hu.config] at hretries
    rcases retriesAtDeadline_eq_true_iff.mp hretries with ⟨hopen, hcases⟩
    rcases hcases with ⟨hstate, hflag⟩ | ⟨hstate, hflag⟩
    · exact .unacknowledged hstate hflag htimedOut
    · refine .unanswered ?_ hflag htimedOut
      -- neither over nor waiting for its ACK, and it has been started
      unfold Sequence.isTerminal at hopen
      cases hs : s.state with
      | pending => exact absurd hs hu.follows.started
      | waitingForAck => exact absurd hs hstate
      | waitingForResponse => exact .inl rfl
      | waitingForCallback => exact .inr rfl
      | complete => rw [hs] at hopen; cases hopen
      | failed => rw [hs] at hopen; cases hopen

/-- Once an answer has been taken, only a timeout of the response is a reason. -/
theorem flag_of_taken {now : Nat} (hu : Underway e h₀ log h x s)
    (hrenewal : Renewal h₀.config log now s) (htaken : ∃ frame, .heard frame true ∈ log) :
    h₀.config.retryOnResponseTimeout = true := by
  cases hflag : h₀.config.retryOnResponseTimeout with
  | true => rfl
  | false =>
    have hpast := hu.taken hflag htaken
    cases hrenewal with
    | unacknowledged hstate _ _ => exact absurd hstate hpast
    | unanswered _ hon _ => exact hflag.symm.trans hon
    | rejected hstate _ _ => exact absurd hstate hpast

/-- **One more attempt** is made, or there is none left. -/
theorem renews (hu : Underway e h₀ log h x s) {now : Nat} (l : Link π)
    (hopen : s.isTerminal = false) (hrenewal : Renewal h₀.config log now s) :
    (∃ x' t, s.retry.attemptMove = .transmit t
        ∧ Underway e h₀ (log ++ [.transmitted now e t.request])
          (perform now e ⟨l, h⟩ (.transmit t)).host x' t)
      ∨ s.retry.attemptMove = .finish (.ok s.retry.outcome)
        ∧ EndsWith e h₀ log (perform now e ⟨l, h⟩ (.finish (.ok s.retry.outcome))).host
          s.retry.outcome := by
  have hready := hu.follows.ready_retry hopen
  by_cases hle : s.retry.attempt ≤ h₀.config.maxRetries
  · left
    refine ⟨⟨e, h.rejections, now + h.config.timeout⟩, _, hready.attemptMove_of_le hle, ?_⟩
    apply of_transmission now l hu.config hu.registry hu.transmissions hready.follows_enter
    · -- had an answer been taken, the reason would be one that is switched off
      intro hoff htaken
      rw [hu.flag_of_taken hrenewal htaken] at hoff
      cases hoff
    · rw [Sequence.enter_attempt]
      exact hle
    · intro hmax
      rw [Sequence.enter_attempt, hu.toNat_attempt_retry hmax, hu.counted hmax]
  · right
    have hlt := UInt32.not_le.mp hle
    refine ⟨hready.attemptMove_of_lt hlt, hu.leave now l ?_⟩
    intro hmax
    exact hu.accounts_retry hmax hopen hlt

/-- **What a look does**: the caller waits on, sends once more, or leaves. -/
theorem continues_look (hu : Underway e h₀ log m.host x s) : Continues e h₀ log m x s .look := by
  cases hready : isReady m.now m.host x with
  | false =>
    rcases Moment.look_of_not_ready hu.active hready with ⟨hafter, hlog⟩
    have hearly : m.now < x.deadline := by
      unfold isReady at hready
      rw [Bool.or_eq_false_iff, Bool.or_eq_false_iff, decide_eq_false_iff_not] at hready
      exact Nat.not_le.mp hready.1.2
    refine .waits s ?_ ?_ fun _ => hearly
    · rw [hafter, hlog, List.append_nil]
      exact hu
    · rw [hlog, List.append_nil]
  | true =>
    rcases Moment.look_of_ready hu.active hready with ⟨hafter, hlog⟩
    rw [hu.errand] at hafter hlog
    have hattend := hu.attend
    rcases Host.move_cases m.now x hu.inFlight
      with hmove | ⟨hmove, hopen, hcause⟩ | ⟨hmove, hearly⟩
    all_goals rw [hmove] at hafter hlog
    · -- the caller leaves
      refine .ends s.outcome rfl hlog ?_
      rw [hafter]
      exact hattend.leave m.now m.adapter.link hu.accounts
    · -- it wants its request sent once more
      have hopen : s.isTerminal = false := hu.follows.signalled.symm.trans hopen
      have hrenewal := hu.renewal hcause
      rcases hattend.renews m.adapter.link hopen hrenewal with ⟨x', t, ht, hnext⟩ | ⟨ht, hend⟩
      all_goals rw [ht] at hafter hlog
      · have hlog : m.happenings .look = [.transmitted m.now e t.request] := hlog
        refine .transmits x' t rfl ?_ ?_ hrenewal
        · rw [hafter, hlog]
          exact hnext
        · rw [hlog]
          exact transmissionTimes_append log _
      · refine .ends s.retry.outcome rfl hlog ?_
        rw [hafter]
        exact hend
    · -- it was called for nothing
      have hlog : m.happenings .look = [] := hlog
      refine .waits s ?_ ?_ fun _ => hearly
      · rw [hafter, hlog, List.append_nil]
        exact hattend
      · rw [hlog, List.append_nil]

/-- **What any event does**, as long as the caller does not go away. -/
theorem continues {event : Event π} (hu : Underway e h₀ log m.host x s)
    (hspares : event.Spares e.ticket) : Continues e h₀ log m x s event := by
  by_cases hbystander : event.IsBystander
  · rw [← hu.errand] at hspares
    rcases m.agrees_after hu.active hbystander hspares with ⟨hagrees, hlog⟩
    refine .waits s ?_ ?_ ?_
    · rw [hlog, List.append_nil]
      exact hu.of_agrees hagrees
    · rw [hlog, List.append_nil]
    · intro hlook
      rw [hlook] at hbystander
      cases hbystander
  · cases event with
    | receive bytes =>
      rcases hu.receive bytes with ⟨⟨t, ht⟩, htimes⟩
      exact .waits t ht htimes fun hlook => by cases hlook
    | look => exact hu.continues_look
    | stop =>
      -- the caller learns of the failure at its next look
      have hlog : log ++ m.happenings .stop = log := List.append_nil log
      rcases m.agrees_stop with hagrees | hagrees
      · refine .waits s ?_ (congrArg transmissionTimes hlog) fun hlook => by cases hlook
        rw [hlog]
        exact hu.of_agrees hagrees
      · refine .waits s.fail ?_ (congrArg transmissionTimes hlog) fun hlook => by cases hlook
        rw [hlog]
        exact hu.failInFlight.of_agrees hagrees
    | _ => exact absurd trivial hbystander

end Underway

/-! ## §3. All runs -/

section

variable {e : Errand} {m₀ : Moment π} {rest : List Errand}
  (hactive : m₀.host.active = none) (hwaiting : m₀.host.waiting = e :: rest)

include hactive hwaiting

/-- A turn begins with a transmission. -/
theorem Underway.begin :
    ∃ x s, Underway e m₀.host (m₀.happenings .look) (m₀.after .look).host x s := by
  have hready := Sequence.ready_fresh e m₀.host
  rcases Moment.look_of_waiting hactive hwaiting with ⟨hafter, hlog⟩
  rw [Sequence.attemptMove_fresh] at hafter hlog
  rw [hafter, hlog]
  have hconfig : (leaveLine m₀.host rest).config = m₀.host.config := rfl
  have hnone : (leaveLine m₀.host rest).transmissions = m₀.host.transmissions
      ++ List.replicate (transmissionTimes []).length (e.ticket, e.request) :=
    (List.append_nil _).symm
  refine ⟨_, _, Underway.of_transmission m₀.now m₀.adapter.link hconfig rfl hnone
    hready.follows_enter ?_ ?_ ?_⟩
  · rintro - ⟨frame, hmem⟩
    cases hmem
  · rw [Sequence.enter_attempt]
    exact Sequence.attempt_fresh_le e m₀.host
  · intro _
    rw [Sequence.enter_attempt]
    rfl

/-- **Every run of an exchange** is under way, or has ended. -/
theorem ExchangeRun.course {log : List Happening} {m : Moment π} (run : ExchangeRun e m₀ log m) :
    (∃ x s, Underway e m₀.host log m.host x s)
      ∨ ∃ before o, log = before ++ [.ended e (.ok o)] ∧ EndsWith e m₀.host before m.host o := by
  -- by induction on the run; `Underway` carries it from event to event
  induction run with
  | begin => exact .inl (Underway.begin hactive hwaiting)
  | next run hturn event hspares ih =>
    rcases ih with ⟨x, s, hu⟩ | ⟨before, o, _, hend⟩
    · cases hu.continues hspares with
      | waits t ht _ _ => exact .inl ⟨x, t, ht⟩
      | transmits x' t _ ht _ _ => exact .inl ⟨x', t, ht⟩
      | ends o hlook hlog hend => exact .inr ⟨_, o, by rw [hlog], hend⟩
    · -- nobody has the turn any more
      rw [hend.active_eq] at hturn
      cases hturn

end

end ZWaveHost
