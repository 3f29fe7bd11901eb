/-
  ZWaveHost.Proofs.Exchange.Limits — what becomes of the numbers in the
  settings.

  Attempts are counted in 32 bits and compared with the number of attempts
  that the settings allow; the queue for the subscribers is as long as the
  settings say.  The settings are refused where these numbers are 0, but not
  where they are too large.  Then no attempt is ever one too many and the
  count goes round, and no queue can be made.

  Main facts: below the largest number of attempts the count is exact and no
  exchange has more transmissions than attempts (`Reachable.not_overflows`,
  `ExchangeRun.length_le`), at that number an exchange goes on for ever
  (`exists_repeats`), and these, with the length of the queue, are all there is
  to it (`settings_contain_runs_iff`).
-/
import ZWaveHost.Proofs.Exchange.Progress
import ZWaveHost.Proofs.Run.Lifecycle

namespace ZWaveHost

open Adapter

variable {π : Type} [Port π]

/-! ## §1. Further attempts -/

/-- Whether anything makes a host send a request once more. -/
def Config.renews (c : Config) : Bool :=
  c.retryOnAckTimeout || c.retryOnResponseTimeout || c.retransmitOnNak

namespace Moment

/-- The caller whose turn it is will count a further attempt at its next step:
    a rejection tells it to, or the deadline. -/
structure CountsOn (m : Moment π) (x : Exchange) (s : Sequence) : Prop where
  active : m.host.active = some x
  inFlight : m.host.inFlight = some s
  unsignalled : isSignalled s = false
  cause : m.host.permit = true ∧ isFresh m.host x s = true
    ∨ x.deadline ≤ m.now ∧ retriesAtDeadline m.host.config s = true

/-- The next attempt is one more than can be counted. -/
def Overflows (m : Moment π) : Prop := ∃ x s, m.CountsOn x s ∧ s.attempt = 0xFFFFFFFF

/-- A start panics, whether its NAK has to wait or not. -/
def StartPanics (m : Moment π) : Prop := m.adapter.start = none ∧ m.adapter.beginStart = none

variable {m : Moment π} {x : Exchange} {s : Sequence}

omit [Port π] in
/-- **A caller that counts on** makes the next attempt, if it is allowed. -/
theorem CountsOn.nextMove (hc : m.CountsOn x s) :
    m.host.nextMove? m.now = some (x.errand, s.retry.attemptMove) := by
  have hready : isReady m.now m.host x = true := by
    unfold isReady
    rcases hc.cause with ⟨hpermit, -⟩ | ⟨hdue, -⟩
    · rw [hpermit, Bool.true_or, Bool.true_or]
    · rw [decide_eq_true hdue, Bool.or_true, Bool.true_or]
  have hmove : m.host.move m.now x = s.retry.attemptMove := by
    unfold Host.move
    simp only [hc.inFlight, hc.unsignalled, Bool.false_eq_true, if_false]
    by_cases hfresh : (m.host.permit && isFresh m.host x s) = true
    · rw [if_pos hfresh]
    · rw [if_neg hfresh]
      rcases hc.cause with ⟨hpermit, hnew⟩ | ⟨hdue, hretries⟩
      · exact absurd (by rw [hpermit, hnew]; rfl) hfresh
      · rw [if_pos hdue, if_pos hretries]
  unfold Host.nextMove?
  rw [hc.active]
  dsimp only
  rw [if_pos hready, hmove]

end Moment

omit [Port π] in
/-- A request is sent once more only if the settings want it in some case. -/
theorem Renewal.renews {c : Config} {log : List Happening} {now : Nat} {s : Sequence}
    (hr : Renewal c log now s) : c.renews = true := by
  unfold Config.renews
  cases hr with
  | unacknowledged hstate hflag hdue => simp [hflag]
  | unanswered hstate hflag hdue => simp [hflag]
  | rejected hstate hflag hheard => simp [hflag]

/-! ## §2. Settings within limits -/

omit [Port π] in
theorem Config.maxRetries_lt {c : Config} (hmax : c.maxRetries ≠ 0xFFFFFFFF) :
    c.maxRetries < 0xFFFFFFFF := by
  have hne : c.maxRetries.toNat ≠ 4294967295 := fun heq => hmax (UInt32.toNat_inj.mp heq)
  have hlt := c.maxRetries.toNat_lt
  rw [UInt32.lt_iff_toNat_lt]
  show c.maxRetries.toNat < 4294967295
  omega

/-- **No attempt is one too many to count**, unless the settings allow the last
    that can be counted and want a request sent again. -/
theorem Moment.Reachable.not_overflows {m : Moment π} (hm : m.Reachable)
    (hlimit : m.host.config.maxRetries ≠ 0xFFFFFFFF ∨ m.host.config.renews = false) :
    ¬ m.Overflows := by
  rintro ⟨x, s, hcounts, hlast⟩
  obtain ⟨h₀, log, t, hu⟩ := hm.underway hcounts.active
  obtain rfl : t = s := Option.some.inj (hu.inFlight.symm.trans hcounts.inFlight)
  rcases hlimit with hmax | hnever
  · have hle := hu.attempt_le
    rw [hlast, ← hu.config] at hle
    exact absurd (Config.maxRetries_lt hmax) (UInt32.not_lt.mpr hle)
  · have hrenewal := hu.renewal (hcounts.cause.imp_left And.right)
    rw [← hu.config] at hrenewal
    rw [hrenewal.renews] at hnever
    cases hnever

/-- **An exchange has no more transmissions than the settings allow attempts.** -/
theorem ExchangeRun.length_le {e : Errand} {rest : List Errand} {m₀ m : Moment π}
    {log : List Happening} (hactive : m₀.host.active = none)
    (hwaiting : m₀.host.waiting = e :: rest)
    (hlimit : m₀.host.config.maxRetries ≠ 0xFFFFFFFF ∨ m₀.host.config.renews = false)
    (run : ExchangeRun e m₀ log m) :
    (transmissionTimes log).length ≤ m₀.host.config.maxRetries.toNat := by
  induction run with
  | begin =>
    have hfirst : transmissionTimes (m₀.happenings .look) = [m₀.now] := by
      rw [(Moment.look_of_waiting hactive hwaiting).2, Sequence.attemptMove_fresh]
      rfl
    rw [hfirst]
    exact UInt32.le_iff_toNat_le.mp (Sequence.attempt_fresh_le e m₀.host)
  | next run hturn event hspares ih =>
    rcases run.course hactive hwaiting with ⟨x, s, hu⟩ | ⟨before, o, -, hend⟩
    · cases hu.continues hspares with
      | waits t ht htimes hearly =>
        rw [htimes]
        exact ih
      | transmits x' t hlook ht htimes hrenewal =>
        -- there is a reason to send again, so the attempts are counted
        rcases hlimit with hmax | hnever
        · exact ht.length_le (Config.maxRetries_lt hmax)
        · rw [hrenewal.renews] at hnever
          cases hnever
      | ends o hlook hlog hend =>
        rw [hlog, transmissionTimes_append]
        show (transmissionTimes _ ++ []).length ≤ _
        rw [List.append_nil]
        exact ih
    · rw [hend.active_eq] at hturn
      cases hturn

/-- A start panics exactly if it makes a queue that is too long. -/
theorem Moment.startPanics_iff (m : Moment π) :
    m.StartPanics ↔ m.host.running = false
      ∧ m.host.config.dispatchCapacity.toNat > maxQueueCapacity := by
  have hanswers : m.StartPanics ↔ m.adapter.openUp = none := by
    unfold StartPanics
    rw [← Option.isNone_iff_eq_none, ← Option.isNone_iff_eq_none, ← Option.isNone_iff_eq_none,
      ← Option.not_isSome, ← Option.not_isSome, ← Option.not_isSome, Adapter.isSome_start,
      Adapter.isSome_beginStart, and_self]
  rw [hanswers]
  show _ ↔ m.adapter.host.running = false
    ∧ m.adapter.host.config.dispatchCapacity.toNat > maxQueueCapacity
  cases hrunning : m.adapter.host.running with
  | true =>
    rw [Adapter.openUp_of_running hrunning]
    exact iff_of_false nofun nofun
  | false =>
    by_cases hlong : m.adapter.host.config.dispatchCapacity.toNat > maxQueueCapacity
    · refine iff_of_true ?_ ⟨rfl, hlong⟩
      unfold Adapter.openUp
      rw [if_neg (Bool.eq_false_iff.mp hrunning), if_pos hlong]
    · refine iff_of_false ?_ fun h => hlong h.2
      obtain ⟨hopens, hstays⟩ := Adapter.openUp_of_stopped hrunning (Nat.not_lt.mp hlong)
      by_cases hopened : (Port.openWithin m.adapter.host.config.openTimeout
          m.adapter.link.port).1 = .ok true
      · rw [hopens hopened]
        nofun
      · rw [hstays hopened]
        nofun

/-- **An adapter whose starts panic never runs.** -/
theorem Moment.stopped_after {m : Moment π} (hpanics : m.StartPanics) (event : Event π) :
    (m.after event).host.running = false := by
  have hstopped : m.host.running = false := (m.startPanics_iff.mp hpanics).1
  obtain ⟨hstartPanics, hbeginPanics⟩ := hpanics
  by_cases hstart : event = .start
  · obtain rfl := hstart
    show (m.withAdapter? (m.adapter.start.map Prod.snd)).host.running = false
    rw [hstartPanics]
    exact hstopped
  by_cases hbegin : event = .beginStart
  · obtain rfl := hbegin
    show (m.withAdapter? (m.adapter.beginStart.map Prod.snd)).host.running = false
    rw [hbeginPanics]
    exact hstopped
  rcases m.runs_after hstart hbegin with ⟨hrunning, -⟩ | ⟨hends, -⟩
  · exact hrunning.trans hstopped
  · exact hends

/-- **Once a start panics, all do.** -/
theorem Moment.StartPanics.run {m : Moment π} (hpanics : m.StartPanics)
    (events : List (Event π)) : (m.run events).StartPanics := by
  induction events generalizing m with
  | nil => exact hpanics
  | cons event rest ih =>
    have hlong := (m.startPanics_iff.mp hpanics).2
    refine ih ((m.after event).startPanics_iff.mpr ⟨Moment.stopped_after hpanics event, ?_⟩)
    rw [m.config_after event]
    exact hlong

/-! ## §3. Requests that are sent over and over -/

/-- A chunk transmits no request. -/
theorem Adapter.transmissionTimes_heard (a : Adapter π) (bytes : List UInt8) :
    transmissionTimes (a.heard bytes) = [] := by
  have hnone : transmissionTimes [] = [] := rfl
  refine Adapter.receive_induction (P := fun _ log => transmissionTimes log = []) bytes hnone ?_
  intro frame l h log hlog
  rw [transmissionTimes_append, hlog]
  rfl

section

variable {e : Errand} {rest : List Errand} {m₀ : Moment π}

/-- An exchange of an errand whose turn has come after `m₀`, with so many
    transmissions, over an idle link to which somebody listens. -/
structure SentTimes (e : Errand) (m₀ : Moment π) (n : Nat) (m : Moment π) (x : Exchange)
    (s : Sequence) : Prop where
  run : ∃ log, ExchangeRun e m₀ log m ∧ Underway e m₀.host log m.host x s
    ∧ (transmissionTimes log).length = n
  idle : m.adapter.link.Idle
  listens : m.host.lifetime ≠ .gone

/-- The request has just been sent: it waits for its ACK for a whole timeout,
    and every rejection has been seen. -/
structure Repeats (e : Errand) (m₀ : Moment π) (n : Nat) (m : Moment π) (x : Exchange)
    (s : Sequence) : Prop extends SentTimes e m₀ n m x s where
  waits : s.state = .waitingForAck
  seen : x.rejectionsSeen = m.host.rejections
  due : x.deadline = m.now + m₀.host.config.timeout
  attempt : s.attempt = UInt32.ofNat n

namespace SentTimes

variable {n : Nat} {m : Moment π} {x y : Exchange} {s t : Sequence}

theorem flow (hs : SentTimes e m₀ n m x s) : s.flow = e.flow := by
  obtain ⟨log, -, hu, -⟩ := hs.run
  exact hu.follows.flow

theorem active (hs : SentTimes e m₀ n m x s) : m.host.active = some x := by
  obtain ⟨log, -, hu, -⟩ := hs.run
  exact hu.active

theorem inFlight (hs : SentTimes e m₀ n m x s) : m.host.inFlight = some s := by
  obtain ⟨log, -, hu, -⟩ := hs.run
  exact hu.inFlight

theorem config (hs : SentTimes e m₀ n m x s) : m.host.config = m₀.host.config := by
  obtain ⟨log, -, hu, -⟩ := hs.run
  exact hu.config

theorem unsignalled (hs : SentTimes e m₀ n m x s) (hopen : s.isTerminal = false) :
    isSignalled s = false := by
  obtain ⟨log, -, hu, -⟩ := hs.run
  exact hu.follows.unsignalled hopen

/-- **The exchange goes on** with an event that leaves it somebody's turn. -/
theorem next (hactive : m₀.host.active = none) (hwaiting : m₀.host.waiting = e :: rest)
    (hs : SentTimes e m₀ n m x s) (event : Event π) (hspares : event.Spares e.ticket)
    (hturn : (m.after event).host.active = some y)
    (hflight : (m.after event).host.inFlight = some t)
    (hidle : (m.after event).adapter.link.Idle)
    (hlistens : (m.after event).host.lifetime = m.host.lifetime) :
    SentTimes e m₀ (n + (transmissionTimes (m.happenings event)).length) (m.after event) y t := by
  obtain ⟨log, run, hu, hlength⟩ := hs.run
  have hnext := run.next (by rw [hu.active]; rfl) event hspares
  refine ⟨⟨_, hnext, ?_, ?_⟩, hidle, ?_⟩
  · rcases hnext.course hactive hwaiting with ⟨x', s', hu'⟩ | ⟨before, o, -, hend⟩
    · obtain rfl : x' = y := Option.some.inj (hu'.active.symm.trans hturn)
      obtain rfl : s' = t := Option.some.inj (hu'.inFlight.symm.trans hflight)
      exact hu'
    · rw [hend.active_eq] at hturn
      cases hturn
  · rw [transmissionTimes_append, List.length_append, hlength]
  · rw [hlistens]
    exact hs.listens

/-- Time passes. -/
theorem pass (hactive : m₀.host.active = none) (hwaiting : m₀.host.waiting = e :: rest)
    (hs : SentTimes e m₀ n m x s) (milliseconds : Nat) :
    SentTimes e m₀ n (m.after (.pass milliseconds)) x s :=
  hs.next hactive hwaiting (.pass milliseconds) trivial hs.active hs.inFlight hs.idle rfl

/-- **A control frame comes in** that leaves the turn to the caller. -/
theorem control (hactive : m₀.host.active = none) (hwaiting : m₀.host.waiting = e :: rest)
    (hs : SentTimes e m₀ n m x s) (byte : UInt8) (frame : Frame) {h : Host}
    (hbyte : Decoder.idle.push byte = (.ok (.frame frame), .idle))
    (hcontrol : ∀ l : Link π, Host.accept frame (l, m.host) = (l, h))
    (hturn : h.active = m.host.active) (hflight : h.inFlight = some t)
    (hlistens : h.lifetime = m.host.lifetime) :
    (m.after (.receive [byte])).host = h ∧ SentTimes e m₀ n (m.after (.receive [byte])) x t := by
  have hpush : (m.adapter.link.decoder.push byte).1 = .ok (.frame frame) := by
    rw [hs.idle.decoder, hbyte]
  have hreceived : m.adapter.receive [byte] = ⟨m.adapter.link.tookIn byte, h⟩ := by
    have hlistens : ¬ m.adapter.host.lifetime = .gone := hs.listens
    have haccepted : Link.handle Host.accept (.ok (.frame frame))
        (m.adapter.link.tookIn byte, m.adapter.host) = (m.adapter.link.tookIn byte, h) := hcontrol _
    unfold Adapter.receive
    rw [if_neg hlistens, Link.receive_singleton, hpush, haccepted]
  have hafter : (m.after (.receive [byte])).adapter = ⟨m.adapter.link.tookIn byte, h⟩ := hreceived
  have hhost : (m.after (.receive [byte])).host = h := congrArg Adapter.host hafter
  have hidle : (m.after (.receive [byte])).adapter.link.Idle := by
    rw [hafter]
    exact hs.idle.balanced.tookIn_idle_of_frame hpush
  have hnext := hs.next hactive hwaiting (.receive [byte]) trivial
    (by rw [hhost, hturn]; exact hs.active) (by rw [hhost, hflight]) hidle (by rw [hhost, hlistens])
  have hsilent : transmissionTimes (m.happenings (.receive [byte])) = [] :=
    m.adapter.transmissionTimes_heard [byte]
  rw [hsilent] at hnext
  exact ⟨hhost, hnext⟩

end SentTimes

/-- A transmission leaves an idle link idle. -/
theorem Moment.idle_of_transmit {m : Moment π} {t : Sequence} (hidle : m.adapter.link.Idle)
    (hmove : m.host.nextMove? m.now = some (e, .transmit t)) :
    (m.after .look).adapter.link.Idle := by
  have hturn : m.adapter.turnLink.Idle :=
    turnLink_rec (P := Link.Idle) hidle fun ticket => hidle.afterWait_idle (.caller ticket)
  have hsent := hturn.send_idle (.data t.request)
  rw [look_adapter, hmove]
  rw [← hturn.post_eq (.caller e.ticket)] at hsent
  exact hsent

namespace Repeats

variable {n : Nat} {m : Moment π} {x : Exchange} {s : Sequence}

/-- **The first transmission.** -/
theorem first (hactive : m₀.host.active = none) (hwaiting : m₀.host.waiting = e :: rest)
    (hflow : e.flow.afterStart = .waitingForAck) (hidle : m₀.adapter.link.Idle)
    (hlistens : m₀.host.lifetime ≠ .gone) :
    ∃ x s, Repeats e m₀ 1 (m₀.after .look) x s := by
  have hmove := Host.nextMove?_of_inLine m₀.now hactive hwaiting
  obtain ⟨_, _, hafter⟩ := Moment.look_of_transmit hmove
  obtain ⟨y, t, hu⟩ := Underway.begin hactive hwaiting
  have hturn := hu.active
  have hflight := hu.inFlight
  rw [hafter] at hturn hflight
  obtain rfl := Option.some.inj hturn
  obtain rfl := Option.some.inj hflight
  refine ⟨_, _, ⟨⟨_, .begin, hu, ?_⟩, Moment.idle_of_transmit hidle hmove, ?_⟩, ?_, ?_, rfl, ?_⟩
  · rw [(Moment.look_of_nextMove hmove).2]
    rfl
  · rw [hafter]
    exact hlistens
  · rw [Sequence.enter_state]
    exact hflow
  · rw [hafter]
    rfl
  · rw [Sequence.enter_attempt]
    rfl

/-- **One more transmission**, where the settings put no end to them. -/
theorem next (hactive : m₀.host.active = none) (hwaiting : m₀.host.waiting = e :: rest)
    (hflow : e.flow.afterStart = .waitingForAck)
    (hmax : m₀.host.config.maxRetries = 0xFFFFFFFF) (hs : SentTimes e m₀ n m x s)
    (hcounts : m.CountsOn x s) (hattempt : s.attempt = UInt32.ofNat n) :
    ∃ y t, Repeats e m₀ (n + 1) (m.after .look) y t := by
  obtain ⟨log, run, hu, hlength⟩ := hs.run
  have hopen : s.isTerminal = false := hu.follows.signalled.symm.trans hcounts.unsignalled
  -- whatever the count has come to, it is not beyond the largest number there is
  have hle : s.retry.attempt ≤ m₀.host.config.maxRetries := by
    rw [hmax, UInt32.le_iff_toNat_le]
    exact Nat.le_of_lt_succ s.retry.attempt.toNat_lt
  have hmove := hcounts.nextMove
  rw [(hu.follows.ready_retry hopen).attemptMove_of_le hle, hu.errand] at hmove
  obtain ⟨_, _, hafter⟩ := Moment.look_of_transmit hmove
  have hnext := hs.next hactive hwaiting .look trivial (by rw [hafter]; rfl) (by rw [hafter]; rfl)
    (Moment.idle_of_transmit hs.idle hmove) (by rw [hafter]; rfl)
  rw [(Moment.look_of_nextMove hmove).2] at hnext
  refine ⟨_, _, hnext, ?_, ?_, ?_, ?_⟩
  · rw [Sequence.enter_state]
    exact hflow
  · rw [hafter]
    rfl
  · rw [hs.config]
    rfl
  · rw [Sequence.enter_attempt]
    show s.attempt + 1 = _
    rw [hattempt, UInt32.ofNat_add]
    rfl

/-- Without an ACK, the deadline is a reason to send again. -/
theorem countsOn_of_silence (hactive : m₀.host.active = none)
    (hwaiting : m₀.host.waiting = e :: rest) (hr : Repeats e m₀ n m x s)
    (hflag : m₀.host.config.retryOnAckTimeout = true) :
    SentTimes e m₀ n (m.after (.pass m₀.host.config.timeout)) x s
      ∧ (m.after (.pass m₀.host.config.timeout)).CountsOn x s := by
  have hopen : s.isTerminal = false := Sequence.isTerminal_eq_false_of_state hr.waits rfl
  refine ⟨hr.toSentTimes.pass hactive hwaiting _, hr.active, hr.inFlight,
    hr.unsignalled hopen, .inr ⟨Nat.le_of_eq hr.due, ?_⟩⟩
  refine retriesAtDeadline_eq_true_iff.mpr ⟨hopen, .inl ⟨hr.waits, ?_⟩⟩
  show m.host.config.retryOnAckTimeout = true
  rw [hr.config]
  exact hflag

/-- A NAK is a reason to send again at once. -/
theorem countsOn_of_nak (hactive : m₀.host.active = none)
    (hwaiting : m₀.host.waiting = e :: rest) (hr : Repeats e m₀ n m x s)
    (hflag : m₀.host.config.retransmitOnNak = true) :
    SentTimes e m₀ n (m.after (.receive [0x15])) x s
      ∧ (m.after (.receive [0x15])).CountsOn x s := by
  have hopen : s.isTerminal = false := Sequence.isTerminal_eq_false_of_state hr.waits rfl
  have hrejected : m.host.reject
      = { m.host with rejections := m.host.rejections + 1, permit := true } := by
    have hcounted : (m.host.config.retransmitOnNak && m.host.waitsForAck) = true := by
      unfold Host.waitsForAck
      rw [hr.config, hflag, hr.inFlight, Option.any_some, hr.waits]
      rfl
    exact if_pos hcounted
  obtain ⟨hhost, hsent⟩ := hr.toSentTimes.control hactive hwaiting 0x15 .nak
    (h := m.host.reject) rfl (fun _ => rfl) (by rw [hrejected]) (by rw [hrejected]; exact hr.inFlight)
    (by rw [hrejected])
  rw [hrejected] at hhost
  refine ⟨hsent, hsent.active, hsent.inFlight, hsent.unsignalled hopen, .inl ?_⟩
  rw [hhost]
  refine ⟨rfl, isFresh_eq_true_iff.mpr ⟨?_, hr.waits⟩⟩
  rw [hr.seen]
  exact fun heq => absurd (UInt64.add_eq_left.mp heq) (by decide)

/-- After the ACK, the deadline of the response is a reason to send again. -/
theorem countsOn_of_ack (hactive : m₀.host.active = none)
    (hwaiting : m₀.host.waiting = e :: rest) (hr : Repeats e m₀ n m x s)
    (hflow : e.flow.afterAck? = some .waitingForResponse)
    (hflag : m₀.host.config.retryOnResponseTimeout = true) :
    let late := (m.after (.receive [0x06])).after (.pass m₀.host.config.timeout)
    SentTimes e m₀ n late x (s.enter .waitingForResponse)
      ∧ late.CountsOn x (s.enter .waitingForResponse) := by
  intro late
  have hacknowledged : m.host.acknowledge
      = { m.host with inFlight := some (s.enter .waitingForResponse) } := by
    have hok : s.acknowledge = .ok (s.enter .waitingForResponse) :=
      Sequence.acknowledge_eq_ok_iff.mpr ⟨hr.waits, _, by rw [hr.flow]; exact hflow, rfl⟩
    unfold Host.acknowledge
    rw [hr.inFlight]
    simp only [hr.waits, if_true, hok]
  obtain ⟨-, hsent⟩ := hr.toSentTimes.control hactive hwaiting 0x06 .ack
    (h := m.host.acknowledge) rfl (fun _ => rfl) (by rw [hacknowledged]) (by rw [hacknowledged])
    (by rw [hacknowledged])
  have hstate : (s.enter .waitingForResponse).state = .waitingForResponse := s.enter_state _
  have hopen : (s.enter .waitingForResponse).isTerminal = false :=
    Sequence.isTerminal_eq_false_of_state hstate rfl
  refine ⟨hsent.pass hactive hwaiting _, hsent.active, hsent.inFlight, hsent.unsignalled hopen,
    .inr ⟨Nat.le_of_eq hr.due, ?_⟩⟩
  refine retriesAtDeadline_eq_true_iff.mpr ⟨hopen, .inr ⟨by rw [hstate]; decide, ?_⟩⟩
  show (m.after (.receive [0x06])).host.config.retryOnResponseTimeout = true
  rw [hsent.config]
  exact hflag

/-- **Whatever it is that makes a host send again**, it can happen. -/
theorem exists_countsOn (hactive : m₀.host.active = none)
    (hwaiting : m₀.host.waiting = e :: rest)
    (hflow : e.flow.afterAck? = some .waitingForResponse)
    (hrenews : m₀.host.config.renews = true) (hr : Repeats e m₀ n m x s) :
    ∃ m' t, SentTimes e m₀ n m' x t ∧ m'.CountsOn x t ∧ t.attempt = s.attempt := by
  have hflags : (m₀.host.config.retryOnAckTimeout = true
      ∨ m₀.host.config.retryOnResponseTimeout = true)
      ∨ m₀.host.config.retransmitOnNak = true := by
    unfold Config.renews at hrenews
    rw [Bool.or_eq_true, Bool.or_eq_true] at hrenews
    exact hrenews
  rcases hflags with (hflag | hflag) | hflag
  · obtain ⟨hsent, hcounts⟩ := hr.countsOn_of_silence hactive hwaiting hflag
    exact ⟨_, s, hsent, hcounts, rfl⟩
  · obtain ⟨hsent, hcounts⟩ := hr.countsOn_of_ack hactive hwaiting hflow hflag
    exact ⟨_, _, hsent, hcounts, s.enter_attempt _⟩
  · obtain ⟨hsent, hcounts⟩ := hr.countsOn_of_nak hactive hwaiting hflag
    exact ⟨_, s, hsent, hcounts, rfl⟩

end Repeats

/-- **A request that may be sent as often as can be counted is sent as often as
    you like**, though the count goes round meanwhile. -/
theorem exists_repeats (hactive : m₀.host.active = none) (hwaiting : m₀.host.waiting = e :: rest)
    (hstart : e.flow.afterStart = .waitingForAck)
    (hflow : e.flow.afterAck? = some .waitingForResponse) (hidle : m₀.adapter.link.Idle)
    (hlistens : m₀.host.lifetime ≠ .gone) (hmax : m₀.host.config.maxRetries = 0xFFFFFFFF)
    (hrenews : m₀.host.config.renews = true) (n : Nat) :
    ∃ m x s, Repeats e m₀ (n + 1) m x s := by
  induction n with
  | zero =>
    obtain ⟨x, s, hr⟩ := Repeats.first hactive hwaiting hstart hidle hlistens
    exact ⟨_, x, s, hr⟩
  | succ n ih =>
    obtain ⟨m, x, s, hr⟩ := ih
    obtain ⟨m', t, hsent, hcounts, hattempt⟩ :=
      hr.exists_countsOn hactive hwaiting hflow hrenews
    obtain ⟨y, u, hnext⟩ := Repeats.next hactive hwaiting hstart hmax hsent hcounts
      (hattempt.trans hr.attempt)
    exact ⟨_, y, u, hnext⟩

/-- The run of an exchange is a run. -/
theorem ExchangeRun.exists_run {log : List Happening} {m : Moment π}
    (run : ExchangeRun e m₀ log m) : ∃ events, m = m₀.run events := by
  induction run with
  | begin => exact ⟨[.look], rfl⟩
  | next run hturn event hspares ih =>
    obtain ⟨events, rfl⟩ := ih
    refine ⟨events ++ [event], ?_⟩
    unfold Moment.run
    rw [List.foldl_append]
    rfl

/-- **At last the attempts cannot be counted any more.** -/
theorem exists_overflow (hactive : m₀.host.active = none) (hwaiting : m₀.host.waiting = e :: rest)
    (hstart : e.flow.afterStart = .waitingForAck)
    (hflow : e.flow.afterAck? = some .waitingForResponse) (hidle : m₀.adapter.link.Idle)
    (hlistens : m₀.host.lifetime ≠ .gone) (hmax : m₀.host.config.maxRetries = 0xFFFFFFFF)
    (hrenews : m₀.host.config.renews = true) : ∃ events, (m₀.run events).Overflows := by
  obtain ⟨m, x, s, hr⟩ := exists_repeats hactive hwaiting hstart hflow hidle hlistens hmax
    hrenews 0xFFFFFFFE
  obtain ⟨m', t, hsent, hcounts, hattempt⟩ := hr.exists_countsOn hactive hwaiting hflow hrenews
  obtain ⟨log, run, -, -⟩ := hsent.run
  obtain ⟨events, rfl⟩ := run.exists_run
  exact ⟨events, x, t, hcounts, hattempt.trans hr.attempt⟩

end

/-! ## §4. All settings -/

/-- Settings whose numbers are kept in bounds: what can be counted is enough,
    and the queue can be made. -/
structure Config.Contained (c : Config) : Prop where
  attempts : c.maxRetries ≠ 0xFFFFFFFF ∨ c.renews = false
  queue : c.dispatchCapacity.toNat ≤ maxQueueCapacity

/-- The request for the version of the library. -/
def Errand.forVersion : Errand where
  ticket := 0
  request := ⟨3, .request, 0x15, [], 0xE9⟩
  flow := .response
  recovers := none

/-- An adapter that has been started and asked for the version of the library. -/
def Moment.forVersion (c : Config) (valid : c.Valid) : Moment ScriptedPort :=
  (Moment.new 0 {} c valid .standard).run [.start, .send .getLibraryVersion]

theorem Moment.forVersion_inLine {c : Config} (valid : c.Valid)
    (hqueue : c.dispatchCapacity.toNat ≤ maxQueueCapacity) :
    (forVersion c valid).host.active = none
      ∧ (forVersion c valid).host.waiting = [.forVersion]
      ∧ (forVersion c valid).adapter.link.Idle
      ∧ (forVersion c valid).host.lifetime ≠ .gone
      ∧ (forVersion c valid).host.config = c := by
  let new := Moment.new 0 ({} : ScriptedPort) c valid .standard
  have hstart := (Adapter.start_of_stopped (a := new.adapter) rfl hqueue).1 rfl
  have hafter : forVersion c valid
      = (new.withAdapter? (new.adapter.start.map Prod.snd)).after (.send .getLibraryVersion) := rfl
  rw [hafter, hstart]
  exact ⟨rfl, rfl, ⟨rfl, rfl⟩, nofun, rfl⟩

/-- **Settings whose numbers are in bounds contain every run**: no count
    overflows and no start panics. -/
theorem Config.Contained.run {c : Config} (hc : c.Contained) (now : Nat) (port : π)
    (valid : c.Valid) (registry : Registry) (events : List (Event π)) :
    ¬ ((Moment.new now port c valid registry).run events).Overflows
      ∧ ¬ ((Moment.new now port c valid registry).run events).StartPanics := by
  have hreachable : ((Moment.new now port c valid registry).run events).Reachable :=
    ⟨now, port, c, valid, registry, events, rfl⟩
  have hconfig : ((Moment.new now port c valid registry).run events).host.config = c :=
    Moment.config_run _ events
  refine ⟨hreachable.not_overflows ?_, ?_⟩
  · rw [hconfig]
    exact hc.attempts
  · rw [Moment.startPanics_iff, hconfig]
    exact fun h => absurd hc.queue (Nat.not_le.mpr h.2)

/-- **The settings contain every run exactly if their numbers are in bounds.**
    Within them no exchange has more transmissions than the settings allow
    attempts.  With the largest number of attempts, and a reason to make them,
    the request of an exchange may be sent any number of times, its attempts
    counted modulo the range of the counter; and where the queue is too long,
    every start of every run panics. -/
theorem settings_contain_runs_iff (c : Config) (valid : c.Valid) :
    ((∀ (π : Type) [Port π] (now : Nat) (port : π) (registry : Registry)
          (events : List (Event π)),
        ¬ ((Moment.new now port c valid registry).run events).Overflows
          ∧ ¬ ((Moment.new now port c valid registry).run events).StartPanics)
        ↔ c.Contained)
      ∧ (c.maxRetries ≠ 0xFFFFFFFF ∨ c.renews = false →
        ∀ (π : Type) [Port π] (e : Errand) (rest : List Errand) (m₀ m : Moment π)
          (log : List Happening), m₀.host.config = c → m₀.host.active = none →
          m₀.host.waiting = e :: rest → ExchangeRun e m₀ log m →
          (transmissionTimes log).length ≤ c.maxRetries.toNat)
      ∧ (c.maxRetries = 0xFFFFFFFF → c.renews = true →
        c.dispatchCapacity.toNat ≤ maxQueueCapacity →
        ∀ n, ∃ log m s, ExchangeRun .forVersion (.forVersion c valid) log m
          ∧ (transmissionTimes log).length = n + 1 ∧ m.host.inFlight = some s
          ∧ s.attempt = UInt32.ofNat (n + 1))
      ∧ (c.dispatchCapacity.toNat > maxQueueCapacity →
        ∀ (π : Type) [Port π] (now : Nat) (port : π) (registry : Registry)
          (events : List (Event π)),
          ((Moment.new now port c valid registry).run events).StartPanics) := by
  have hforVersion (hmax : c.maxRetries = 0xFFFFFFFF) (hrenews : c.renews = true)
      (hqueue : c.dispatchCapacity.toNat ≤ maxQueueCapacity) :
      (∃ events, ((Moment.forVersion c valid).run events).Overflows)
        ∧ ∀ n, ∃ m x s, Repeats .forVersion (.forVersion c valid) (n + 1) m x s := by
    obtain ⟨hactive, hwaiting, hidle, hlistens, hconfig⟩ := Moment.forVersion_inLine valid hqueue
    rw [← hconfig] at hmax hrenews
    exact ⟨exists_overflow hactive hwaiting rfl rfl hidle hlistens hmax hrenews,
      exists_repeats hactive hwaiting rfl rfl hidle hlistens hmax hrenews⟩
  refine ⟨⟨?_, fun hc π _ now port registry events => hc.run now port valid registry events⟩,
    ?_, ?_, ?_⟩
  · intro hcontained
    have hqueue : c.dispatchCapacity.toNat ≤ maxQueueCapacity := by
      refine Nat.not_lt.mp fun hlong => ?_
      exact (hcontained ScriptedPort 0 {} .standard []).2
        ((Moment.startPanics_iff _).mpr ⟨rfl, hlong⟩)
    refine ⟨?_, hqueue⟩
    by_cases hmax : c.maxRetries = 0xFFFFFFFF
    · right
      rw [← Bool.not_eq_true]
      intro hrenews
      obtain ⟨⟨events, hoverflows⟩, -⟩ := hforVersion hmax hrenews hqueue
      refine (hcontained ScriptedPort 0 {} .standard
        ([.start, .send .getLibraryVersion] ++ events)).1 ?_
      unfold Moment.run
      rw [List.foldl_append]
      exact hoverflows
    · exact .inl hmax
  · rintro hlimit π _ e rest m₀ m log rfl hactive hwaiting run
    exact run.length_le hactive hwaiting hlimit
  · intro hmax hrenews hqueue n
    obtain ⟨m, x, s, hr⟩ := (hforVersion hmax hrenews hqueue).2 n
    obtain ⟨log, run, -, hlength⟩ := hr.run
    exact ⟨log, m, s, run, hlength, hr.inFlight, hr.attempt⟩
  · intro hlong π _ now port registry events
    have hpanics : (Moment.new now port c valid registry).StartPanics :=
      (Moment.startPanics_iff _).mpr ⟨rfl, hlong⟩
    exact hpanics.run events

/-- The default settings contain every run over a scripted port. -/
theorem settings_contain_runs_by_default :
    Config.default.Valid ∧ Config.default.Contained
      ∧ ∀ (events : List (Event ScriptedPort)),
        ¬ ((Moment.new 0 {} .default Config.valid_default .standard).run events).Overflows
          ∧ ¬ ((Moment.new 0 {} .default Config.valid_default .standard).run events).StartPanics := by
  have hcontained : Config.default.Contained := ⟨.inl (by decide), by decide⟩
  exact ⟨Config.valid_default, hcontained,
    (settings_contain_runs_iff .default Config.valid_default).1.mpr hcontained ScriptedPort 0 {}
      .standard⟩

/-- **Settings that are accepted need not contain every run**: with a queue that
    is too long already the first start panics. -/
theorem settings_need_not_contain_runs :
    ¬ ∀ (c : Config) (valid : c.Valid) (events : List (Event ScriptedPort)),
      ¬ ((Moment.new 0 {} c valid .standard).run events).Overflows
        ∧ ¬ ((Moment.new 0 {} c valid .standard).run events).StartPanics := by
  intro hall
  have hvalid : ({ Config.default with dispatchCapacity := 0x2000000000000000 } : Config).Valid :=
    ⟨by decide, by decide, by decide⟩
  have hlong : (0x2000000000000000 : UInt64).toNat > maxQueueCapacity := by decide
  exact (hall _ hvalid []).2 ((Moment.startPanics_iff _).mpr ⟨rfl, hlong⟩)

end ZWaveHost
