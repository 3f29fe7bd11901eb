/-
  ZWaveHost.Proofs.Exchange.Underway — what holds all through an exchange.

  While an exchange is under way, the sequence follows its errand, every
  transmission so far was of the same request and counted as an attempt, and
  the wait ends a timeout after the last of them.  A rejection that has not
  been accounted for was heard since then, and once an answer has been taken
  there is no way back to the wait for the ACK.

  Main facts: whatever comes in, the caller waits on (`Underway.receive`),
  and a transmission begins a new wait (`Underway.of_transmission`).
-/
import ZWaveHost.Proofs.Exchange.Answers
import ZWaveHost.Proofs.Run.Bystander

namespace ZWaveHost

open Adapter

variable {π : Type} [Port π]

/-! ## §1. The invariant -/

/-- What a host holds while an exchange is under way. -/
structure Underway (e : Errand) (h₀ : Host) (log : List Happening) (h : Host) (x : Exchange)
    (s : Sequence) : Prop where
  config : h.config = h₀.config
  registry : h.registry = h₀.registry
  active : h.active = some x
  inFlight : h.inFlight = some s
  errand : x.errand = e
  follows : s.Follows e h₀ (heardSince log)
  transmissions : h.transmissions = h₀.transmissions
    ++ List.replicate (transmissionTimes log).length (e.ticket, e.request)
  deadline : ∃ sent, (transmissionTimes log).getLast? = some sent
    ∧ x.deadline = sent + h₀.config.timeout
  rejected : h.rejections ≠ x.rejectionsSeen →
    h₀.config.retransmitOnNak = true ∧ (.nak ∈ heardSince log ∨ .can ∈ heardSince log)
  taken : h₀.config.retryOnResponseTimeout = false → (∃ frame, .heard frame true ∈ log) →
    s.state ≠ .waitingForAck
  attempt_le : s.attempt ≤ h₀.config.maxRetries
  counted : h₀.config.maxRetries < 0xFFFFFFFF → s.attempt.toNat = (transmissionTimes log).length

namespace Underway

variable {e : Errand} {h₀ h h' : Host} {log : List Happening} {x : Exchange} {s : Sequence}

/-! ## §2. What leaves the caller waiting -/

theorem of_agrees (hu : Underway e h₀ log h x s) (ha : h.Agrees h') :
    Underway e h₀ log h' x s :=
  { hu with
    config := ha.config.trans hu.config
    registry := ha.registry.trans hu.registry
    active := ha.active.trans hu.active
    inFlight := ha.inFlight.trans hu.inFlight
    transmissions := ha.transmissions.trans hu.transmissions
    rejected := by rw [ha.rejections]; exact hu.rejected }

theorem attend (hu : Underway e h₀ log h x s) : Underway e h₀ log h.attend x s := by
  unfold Host.attend
  split
  · exact hu
  · exact hu.of_agrees ⟨rfl, rfl, rfl, rfl, rfl, rfl⟩

theorem failInFlight (hu : Underway e h₀ log h x s) :
    Underway e h₀ log (failInFlight h) x s.fail :=
  { hu with
    inFlight := congrArg (Option.map Sequence.fail) hu.inFlight
    follows := hu.follows.toBelongsTo.fail _
    taken := fun _ _ => by rw [Sequence.fail, Sequence.enter_state]; decide
    attempt_le := by rw [Sequence.fail, Sequence.enter_attempt]; exact hu.attempt_le
    counted := by rw [Sequence.fail, Sequence.enter_attempt]; exact hu.counted }

/-- A frame leaves the caller waiting. -/
theorem accept (hu : Underway e h₀ log h x s) (frame : Frame) (l : Link π) :
    ∃ t, Underway e h₀ (log ++ [.heard frame (h.takes frame)]) (Host.accept frame (l, h)).2
      x t := by
  rcases Host.accept_hears frame l hu.inFlight with ⟨t, ht, hears⟩
  rcases Host.accept_eq frame l h with ⟨queue, inFlight, rejections, permit, heq⟩
  have hsince : heardSince (log ++ [.heard frame (h.takes frame)]) = heardSince log ++ [frame] :=
    heardSince_append log _
  have htimes : transmissionTimes (log ++ [.heard frame (h.takes frame)])
      = transmissionTimes log := by
    rw [transmissionTimes_append]
    exact List.append_nil _
  refine ⟨t, ?_⟩
  -- the sequence, the rejections and the log are all that has changed
  constructor
  case config => rw [heq]; exact hu.config
  case registry => rw [heq]; exact hu.registry
  case active => rw [heq]; exact hu.active
  case inFlight => exact ht
  case errand => exact hu.errand
  case follows => rw [hsince]; exact hu.follows.hears hu.registry hears
  case transmissions => rw [heq, htimes]; exact hu.transmissions
  case deadline => rw [htimes]; exact hu.deadline
  case rejected =>
    intro hne
    rw [hsince]
    by_cases hsame : (Host.accept frame (l, h)).2.rejections = h.rejections
    · -- it was counted before this frame came
      rw [hsame] at hne
      rcases hu.rejected hne with ⟨hflag, hheard⟩
      exact ⟨hflag, hheard.imp (List.mem_append_left _) (List.mem_append_left _)⟩
    · rcases Host.accept_rejections frame l h hsame with ⟨hflag, hframe⟩
      rw [hu.config] at hflag
      refine ⟨hflag, ?_⟩
      rcases hframe with hf | hf <;> rw [hf] <;> simp
  case taken =>
    rintro hoff ⟨taken, hmem⟩
    apply hears.state_ne
    rcases List.mem_append.mp hmem with hold | hnew
    · exact .inl (hu.taken hoff ⟨taken, hold⟩)
    · -- this very frame is the one that is taken
      right
      rw [List.mem_singleton, Happening.heard.injEq] at hnew
      exact hnew.2.symm
  case attempt_le => rw [hears.attempt_eq]; exact hu.attempt_le
  case counted => rw [hears.attempt_eq, htimes]; exact hu.counted

/-- **A chunk leaves the caller waiting**, whatever is in it. -/
theorem receive {a : Adapter π} (hu : Underway e h₀ log a.host x s) (bytes : List UInt8) :
    (∃ t, Underway e h₀ (log ++ a.heard bytes) (a.receive bytes).host x t)
      ∧ transmissionTimes (log ++ a.heard bytes) = transmissionTimes log := by
  refine Adapter.receive_induction
    (P := fun h log' => (∃ t, Underway e h₀ log' h x t)
      ∧ transmissionTimes log' = transmissionTimes log) bytes ⟨⟨s, hu⟩, rfl⟩ ?_
  rintro frame l h log' ⟨⟨t, ht⟩, htimes⟩
  refine ⟨ht.accept frame l, ?_⟩
  rw [transmissionTimes_append, htimes]
  exact List.append_nil _

/-! ## §3. What begins a wait -/

/-- **A transmission begins a new wait**: what was heard before it is past. -/
theorem of_transmission {mover : Host} {t : Sequence} (now : Nat) (l : Link π)
    (hconfig : mover.config = h₀.config) (hregistry : mover.registry = h₀.registry)
    (htransmissions : mover.transmissions = h₀.transmissions
      ++ List.replicate (transmissionTimes log).length (e.ticket, e.request))
    (hfollows : t.Follows e h₀ [])
    (huntaken : h₀.config.retryOnResponseTimeout = false → ¬ ∃ frame, .heard frame true ∈ log)
    (hle : t.attempt ≤ h₀.config.maxRetries)
    (hcounted : h₀.config.maxRetries < 0xFFFFFFFF →
      t.attempt.toNat = (transmissionTimes log).length + 1) :
    Underway e h₀ (log ++ [.transmitted now e t.request])
      (perform now e ⟨l, mover⟩ (.transmit t)).host
      ⟨e, mover.rejections, now + mover.config.timeout⟩ t := by
  have hsince : heardSince (log ++ [.transmitted now e t.request]) = [] := heardSince_append log _
  have htimes : transmissionTimes (log ++ [.transmitted now e t.request])
      = transmissionTimes log ++ [now] := transmissionTimes_append log _
  -- nothing has been heard yet, and every rejection so far has been seen
  constructor
  case config => exact hconfig
  case registry => exact hregistry
  case active => rfl
  case inFlight => rfl
  case errand => rfl
  case follows => rw [hsince]; exact hfollows
  case transmissions =>
    have hbox : (perform now e ⟨l, mover⟩ (.transmit t)).host.transmissions
        = mover.transmissions ++ [(e.ticket, t.request)] :=
      Host.transmissions_append mover [.transmitted e.ticket t.request]
    rw [hbox, htransmissions, htimes, hfollows.request, List.length_append, List.length_singleton,
      List.replicate_succ', List.append_assoc]
  case deadline =>
    rw [htimes, hconfig]
    exact ⟨now, List.getLast?_concat, rfl⟩
  case rejected => exact fun hne => absurd rfl hne
  case taken =>
    rintro hoff ⟨frame, hmem⟩
    rcases List.mem_append.mp hmem with hold | hnew
    · exact absurd ⟨frame, hold⟩ (huntaken hoff)
    · rw [List.mem_singleton] at hnew
      cases hnew
  case attempt_le => exact hle
  case counted =>
    rw [htimes, List.length_append, List.length_singleton]
    exact hcounted

end Underway

end ZWaveHost
