/-
  ZWaveHost.Proofs.Exchange.Account — the outcome of an exchange.

  An outcome gives a true account of an exchange if its state is a terminal
  one, its attempts are the transmissions that were made, and a complete one
  holds the answers that the flow calls for.

  Main facts: a caller leaves with a true account, whether it stops waiting
  (`Underway.accounts`) or has no attempt left (`Underway.accounts_retry`).
-/
import ZWaveHost.Proofs.Exchange.Underway

namespace ZWaveHost

/-! ## §1. True accounts -/

/-- An outcome gives a true account of an exchange. -/
structure Outcome.Accounts (e : Errand) (h₀ : Host) (log : List Happening) (o : Outcome) :
    Prop where
  state : o.state = .complete ∨ o.state = .failed
  attempts : o.attempts.toNat = (transmissionTimes log).length
  attempts_pos : 1 ≤ o.attempts.toNat
  attempts_le : o.attempts ≤ h₀.config.maxRetries
  response : o.state = .complete → o.response.isSome = e.flow.hasResponse
    ∧ ∀ command, o.response = some command →
      Supplied h₀ e.request .response (heardSince log) command
  callback : o.state = .complete → o.callback.isSome = e.flow.hasCallback
    ∧ ∀ command, o.callback = some command →
      Supplied h₀ e.request .request (heardSince log) command

/-- An answer that is there exactly where it is expected. -/
theorem isSome_eq_of_expected {answer : Option Command} {expected : Bool} {P : Command → Prop}
    (hnone : expected = false → answer = none)
    (hsome : expected = true → ∃ command, answer = some command ∧ P command) :
    answer.isSome = expected ∧ ∀ command, answer = some command → P command := by
  cases expected with
  | false =>
    rw [hnone rfl]
    refine ⟨rfl, ?_⟩
    intro command h
    cases h
  | true =>
    rcases hsome rfl with ⟨held, hheld, hp⟩
    rw [hheld]
    refine ⟨rfl, ?_⟩
    intro command h
    rw [← Option.some.inj h]
    exact hp

/-- **A sequence that is over gives a true account**, if its attempts do. -/
theorem accounts_ofSequence {e : Errand} {h₀ : Host} {log : List Happening} {c : Sequence}
    (hc : c.Follows e h₀ (heardSince log)) (hover : c.isTerminal = true)
    (hcount : (min c.attempt c.maxRetries).toNat = (transmissionTimes log).length)
    (hpos : 1 ≤ (transmissionTimes log).length)
    (hle : min c.attempt c.maxRetries ≤ h₀.config.maxRetries) :
    (Outcome.ofSequence c).Accounts e h₀ log where
  state := by
    show c.state = .complete ∨ c.state = .failed
    unfold Sequence.isTerminal SequenceState.isTerminal at hover
    split at hover
    · next hstate => exact .inl hstate
    · next hstate => exact .inr hstate
    · cases hover
  attempts := hcount
  attempts_pos := by
    show 1 ≤ (min c.attempt c.maxRetries).toNat
    omega
  attempts_le := hle
  response hcomplete := isSome_eq_of_expected hc.noResponse (hc.response (.inr hcomplete))
  callback hcomplete := isSome_eq_of_expected hc.noCallback (hc.callback hcomplete)

/-- A sequence that is given up is over, after as many attempts. -/
theorem outcome_eq_ofSequence (s : Sequence) :
    ∃ c : Sequence, s.outcome = .ofSequence c ∧ c.isTerminal = true ∧ c.attempt = s.attempt
      ∧ c.maxRetries = s.maxRetries ∧ (c = s ∨ c = s.fail) := by
  unfold Sequence.outcome
  by_cases hover : s.isTerminal = true
  · rw [if_pos hover]
    exact ⟨s, rfl, hover, rfl, rfl, .inl rfl⟩
  · rw [if_neg hover]
    refine ⟨s.fail, rfl, ?_, s.enter_attempt .failed, s.enter_maxRetries .failed, .inr rfl⟩
    unfold Sequence.isTerminal Sequence.fail
    rw [Sequence.enter_state]
    rfl

/-! ## §2. Leaving -/

namespace Underway

variable {e : Errand} {h₀ h : Host} {log : List Happening} {x : Exchange} {s : Sequence}

theorem transmissionTimes_pos (hu : Underway e h₀ log h x s) :
    1 ≤ (transmissionTimes log).length := by
  rcases hu.deadline with ⟨sent, hsent, _⟩
  cases htimes : transmissionTimes log with
  | nil => rw [htimes] at hsent; cases hsent
  | cons first rest => simp

/-- **A caller that stops waiting** leaves with a true account. -/
theorem accounts (hu : Underway e h₀ log h x s) (hmax : h₀.config.maxRetries < 0xFFFFFFFF) :
    s.outcome.Accounts e h₀ log := by
  rcases outcome_eq_ofSequence s with ⟨c, ho, hover, hattempt, hretries, hc⟩
  have hfollows : c.Follows e h₀ (heardSince log) := by
    rcases hc with hc | hc
    · rw [hc]; exact hu.follows
    · rw [hc]; exact hu.follows.toBelongsTo.fail _
  have hmin : min c.attempt c.maxRetries = s.attempt := by
    rw [hattempt, hretries, hu.follows.maxRetries]
    exact if_pos hu.attempt_le
  rw [ho]
  apply accounts_ofSequence hfollows hover
  · rw [hmin]
    exact hu.counted hmax
  · exact hu.transmissionTimes_pos
  · rw [hmin]
    exact hu.attempt_le

theorem toNat_attempt_retry (hu : Underway e h₀ log h x s)
    (hmax : h₀.config.maxRetries < 0xFFFFFFFF) :
    s.retry.attempt.toNat = s.attempt.toNat + 1 := by
  have hle := UInt32.le_iff_toNat_le.mp hu.attempt_le
  have hlt := UInt32.lt_iff_toNat_lt.mp hmax
  have hbound : (0xFFFFFFFF : UInt32).toNat = 4294967295 := rfl
  -- below the bound, one more attempt does not wrap round
  show (s.attempt + 1).toNat = _
  rw [UInt32.toNat_add, show (1 : UInt32).toNat = 1 from rfl]
  omega

/-- **A caller without an attempt left** leaves with a true account. -/
theorem accounts_retry (hu : Underway e h₀ log h x s) (hmax : h₀.config.maxRetries < 0xFFFFFFFF)
    (hopen : s.isTerminal = false) (hlt : h₀.config.maxRetries < s.retry.attempt) :
    s.retry.outcome.Accounts e h₀ log := by
  have hready := hu.follows.ready_retry hopen
  have hnext := hu.toNat_attempt_retry hmax
  have hcounted := hu.counted hmax
  have hlast := UInt32.le_iff_toNat_le.mp hu.attempt_le
  have hbeyond := UInt32.lt_iff_toNat_lt.mp hlt
  rcases outcome_eq_ofSequence s.retry with ⟨c, ho, hover, hattempt, hretries, hc⟩
  have hfollows : c.Follows e h₀ (heardSince log) := by
    rcases hc with hc | hc
    · -- the next attempt is not over before it is made
      rw [hc, hready.isTerminal_eq] at hover
      cases hover
    · rw [hc]; exact hready.toBelongsTo.fail _
  -- the attempt that is not made does not count
  have hmin : min c.attempt c.maxRetries = h₀.config.maxRetries := by
    rw [hattempt, hretries, hready.maxRetries]
    exact if_neg (UInt32.not_le.mpr hlt)
  rw [ho]
  apply accounts_ofSequence hfollows hover
  · rw [hmin]
    omega
  · exact hu.transmissionTimes_pos
  · rw [hmin]
    exact UInt32.le_refl _

end Underway

end ZWaveHost
