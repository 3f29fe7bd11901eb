/-
  ZWaveHost.Proofs.Run.Turn — what one step of a caller comes to.

  At each step the caller whose turn it is waits on, sends its request, or
  leaves with a result.  Which of these it does (`Host.nextMove?`) is read off
  the host alone; the link is used only to carry it out.  A caller that has
  waited for the line has left it by then (`Adapter.turnLink`).

  Main fact: a step of the adapter is this move carried out (`getD_step?_eq`).
-/
import Mathlib.Control.Monad.Basic
import ZWaveHost.Adapter.Exchange

namespace ZWaveHost

/-! ## §1. Moves -/

/-- What a caller does between two waits. -/
inductive Move where
  /-- It goes on waiting. -/
  | rest
  /-- It sends the request of the sequence, which has been started. -/
  | transmit (s : Sequence)
  /-- It leaves. -/
  | finish (result : Except HostError Outcome)
  deriving DecidableEq

/-- The outcome of a sequence that its caller takes out of flight. -/
def Sequence.outcome (s : Sequence) : Outcome := .ofSequence (if s.isTerminal then s else s.fail)

/-- What a caller does with a sequence that is to be sent. -/
def Sequence.attemptMove (s : Sequence) : Move :=
  if s.isTerminal || !s.canTransmit then .finish (.ok s.outcome)
  else
    match s.start with
    | .error _ => .finish (.ok s.outcome)
    | .ok t => .transmit t

/-- The sequence of an errand whose turn begins. -/
def Errand.fresh (e : Errand) (maxRetries : UInt32) : Sequence :=
  (Sequence.new e.request e.flow maxRetries).completion.2

namespace Host

open Adapter

/-- What the caller of an exchange does when it looks up. -/
def move (now : Nat) (h : Host) (x : Exchange) : Move :=
  match h.inFlight with
  | none => .finish (.error .notRunning)
  | some s =>
    if isSignalled s then .finish (.ok s.outcome)
    else if h.permit && isFresh h x s then s.retry.attemptMove
    else if x.deadline ≤ now then
      if retriesAtDeadline h.config s then s.retry.attemptMove
      else .finish (.ok s.outcome)
    else .rest

/-- The host whose caller has looked up: unless it was called by its signal,
    it has noticed the rejections. -/
def attend (h : Host) : Host := if h.inFlight.all isSignalled then h else notice h

/-- Who takes the next step, and what it does. -/
def nextMove? (now : Nat) (h : Host) : Option (Errand × Move) :=
  match h.active, h.waiting with
  | some x, _ => if isReady now h x then some (x.errand, h.move now x) else none
  | none, [] => none
  | none, e :: _ => some (e, (e.fresh h.config.maxRetries).attemptMove)

/-- The host that takes the next step. -/
def mover (h : Host) : Host :=
  match h.active, h.waiting with
  | none, _ :: rest => leaveLine h rest
  | _, _ => attend h

/-- The host that takes the next step has at most left the line and noticed
    the rejections. -/
theorem mover_eq (h : Host) :
    ∃ waiting permit, h.mover = { h with waiting := waiting, permit := permit } := by
  unfold mover attend
  split
  · exact ⟨_, _, rfl⟩
  · split <;> exact ⟨_, _, rfl⟩

/-- The host that the caller whose turn it was has left. -/
def left (h : Host) : Host := { h.mover with active := none, inFlight := none }

end Host

/-! ## §2. What a caller may do -/

open Adapter

/-- **A caller leaves, sends its request once more, or waits on**; it sends
    only at a fresh rejection, or at its deadline where the settings say so. -/
theorem Host.move_cases {h : Host} {s : Sequence} (now : Nat) (x : Exchange)
    (hs : h.inFlight = some s) :
    h.move now x = .finish (.ok s.outcome)
      ∨ h.move now x = s.retry.attemptMove ∧ isSignalled s = false
        ∧ (isFresh h x s = true ∨ x.deadline ≤ now ∧ retriesAtDeadline h.config s = true)
      ∨ h.move now x = .rest ∧ now < x.deadline := by
  unfold Host.move
  simp only [hs]
  by_cases hsig : isSignalled s = true
  · exact .inl (if_pos hsig)
  rw [if_neg hsig]
  have hopen : isSignalled s = false := Bool.eq_false_iff.mpr hsig
  by_cases hfresh : (h.permit && isFresh h x s) = true
  · rw [if_pos hfresh]
    rw [Bool.and_eq_true] at hfresh
    exact .inr (.inl ⟨rfl, hopen, .inl hfresh.2⟩)
  rw [if_neg hfresh]
  by_cases hdue : x.deadline ≤ now
  · rw [if_pos hdue]
    by_cases hretries : retriesAtDeadline h.config s = true
    · rw [if_pos hretries]
      exact .inr (.inl ⟨rfl, hopen, .inr ⟨hdue, hretries⟩⟩)
    · exact .inl (if_neg hretries)
  · rw [if_neg hdue]
    exact .inr (.inr ⟨rfl, Nat.not_le.mp hdue⟩)

theorem isFresh_eq_true_iff {h : Host} {x : Exchange} {s : Sequence} :
    isFresh h x s = true ↔ h.rejections ≠ x.rejectionsSeen ∧ s.state = .waitingForAck := by
  unfold isFresh
  rw [Bool.and_eq_true, decide_eq_true_eq, decide_eq_true_eq]

theorem retriesAtDeadline_eq_true_iff {c : Config} {s : Sequence} :
    retriesAtDeadline c s = true ↔ s.isTerminal = false
      ∧ (s.state = .waitingForAck ∧ c.retryOnAckTimeout = true
        ∨ s.state ≠ .waitingForAck ∧ c.retryOnResponseTimeout = true) := by
  unfold retriesAtDeadline Sequence.isTerminal
  by_cases hover : s.state.isTerminal = true
  · simp [hover]
  · by_cases hack : s.state = .waitingForAck
    · simp [hack, SequenceState.isTerminal]
    · simp [hover, hack]

/-- A sequence that is sent has been started. -/
theorem Sequence.start_of_attemptMove {s t : Sequence} (h : s.attemptMove = .transmit t) :
    s.start = .ok t := by
  unfold Sequence.attemptMove at h
  split at h
  · cases h
  · cases hstart : s.start with
    | error fault => rw [hstart] at h; cases h
    | ok started =>
      rw [hstart] at h
      exact congrArg Except.ok (Move.transmit.inj h)

theorem Sequence.attemptMove_ne_rest (s : Sequence) : s.attemptMove ≠ .rest := by
  unfold Sequence.attemptMove
  split
  · nofun
  · split <;> nofun

/-- The caller whose turn it is takes the next step, if there is one. -/
theorem Host.nextMove?_of_active {h : Host} {now : Nat} {x : Exchange} {e : Errand} {move : Move}
    (hx : h.active = some x) (hnext : h.nextMove? now = some (e, move)) :
    e = x.errand ∧ move = h.move now x := by
  unfold Host.nextMove? at hnext
  rw [hx] at hnext
  dsimp only at hnext
  split at hnext
  · cases hnext
    exact ⟨rfl, rfl⟩
  · cases hnext

/-! ## §3. Moves carried out -/

namespace Adapter

variable {π : Type} [Port π]

/-- Carries out a move. -/
def perform (now : Nat) (e : Errand) (a : Adapter π) : Move → Adapter π
  | .rest => a
  | .transmit s =>
    let host := { a.host with
      inFlight := some s
      active := some ⟨e, a.host.rejections, now + a.host.config.timeout⟩ }
    ⟨a.link.post (.caller e.ticket) (.data s.request),
      host.report (.transmitted e.ticket s.request)⟩
  | .finish result =>
    { a with host := conclude { a.host with active := none, inFlight := none } e result }

/-- The end of an exchange changes the line and the reports only. -/
theorem conclude_eq (h : Host) (e : Errand) (result : Except HostError Outcome) :
    ∃ waiting outbox, conclude h e result
      = { h with waiting := waiting, outbox := outbox } := by
  unfold conclude
  split
  · exact ⟨_, _, rfl⟩
  · exact ⟨_, _, rfl⟩
  · split <;> exact ⟨_, _, rfl⟩

theorem finish_eq_conclude {h : Host} {s : Sequence} (e : Errand) (hs : h.inFlight = some s) :
    finish h e = conclude { h with active := none, inFlight := none } e (.ok s.outcome) := by
  unfold finish
  rw [hs]
  rfl

/-- **The head of the loop**: a sequence in flight is sent or given up. -/
theorem transmit_eq_perform (now : Nat) (e : Errand) (a : Adapter π) (s : Sequence) :
    transmit now e { a with host := { a.host with inFlight := some s } }
      = perform now e a s.attemptMove := by
  unfold transmit Sequence.attemptMove
  dsimp only
  by_cases hdone : (s.isTerminal || !s.canTransmit) = true
  · rw [if_pos hdone, if_pos hdone, finish_eq_conclude e rfl]
    rfl
  · -- the caller takes no notice of why a start fails
    rw [if_neg hdone, if_neg hdone]
    cases s.start with
    | error fault =>
      dsimp only
      rw [finish_eq_conclude e rfl]
      rfl
    | ok t => rfl

theorem begin_eq_perform (now : Nat) (e : Errand) (a : Adapter π) :
    begin now e a = perform now e a (e.fresh a.host.config.maxRetries).attemptMove :=
  transmit_eq_perform now e a _

theorem transmitAgain_eq_perform (now : Nat) (e : Errand) (s : Sequence) (a : Adapter π) :
    transmitAgain now e s a = perform now e a s.retry.attemptMove :=
  transmit_eq_perform now e a _

/-- **A caller that looks up** makes its move on the host that has noticed
    the rejections. -/
theorem resume_eq_perform (now : Nat) (x : Exchange) (a : Adapter π) :
    resume now x a = perform now x.errand ⟨a.link, a.host.attend⟩ (a.host.move now x) := by
  unfold resume Host.move Host.attend
  cases hs : a.host.inFlight with
  | none =>
    simp only [Option.all_none, if_true, perform]
    unfold finish
    rw [hs]
  | some s =>
    have hnotice : (notice a.host).inFlight = some s := hs
    simp only [Option.all_some]
    by_cases hsig : isSignalled s = true
    · -- the signal calls it away; rejections are left for the next exchange
      simp only [hsig, if_true, perform]
      rw [finish_eq_conclude x.errand hs]
    · simp only [hsig, Bool.false_eq_true, if_false]
      split
      · exact transmitAgain_eq_perform now x.errand s _
      split
      · split
        · exact transmitAgain_eq_perform now x.errand s _
        · rw [finish_eq_conclude x.errand hnotice]
          rfl
      · rfl

/-- What a move does to the host is the same over any link. -/
theorem perform_host (now : Nat) (e : Errand) (l l' : Link π) (h : Host) (move : Move) :
    (perform now e ⟨l, h⟩ move).host = (perform now e ⟨l', h⟩ move).host := by
  cases move <;> rfl

/-- The link once the caller whose turn it is has left the line. -/
def turnLink (a : Adapter π) : Link π :=
  match a.host.active with
  | some x => a.link.afterWait (.caller x.errand.ticket)
  | none => a.link

theorem turnLink_of_active {a : Adapter π} {x : Exchange} (hactive : a.host.active = some x) :
    a.turnLink = a.link.afterWait (.caller x.errand.ticket) := by
  unfold turnLink
  rw [hactive]

theorem turnLink_of_none {a : Adapter π} (hnone : a.host.active = none) : a.turnLink = a.link := by
  unfold turnLink
  rw [hnone]

/-- What holds of the link, whosever wait ends there, holds of it in a turn. -/
theorem turnLink_rec {P : Link π → Prop} {a : Adapter π} (hlink : P a.link)
    (hended : ∀ ticket, P (a.link.afterWait (.caller ticket))) : P a.turnLink := by
  cases hactive : a.host.active with
  | some x =>
    rw [turnLink_of_active hactive]
    exact hended x.errand.ticket
  | none =>
    rw [turnLink_of_none hactive]
    exact hlink

/-- **A step is the next move carried out**, after the wait for the line; if
    there is none, the wait is all that a step can end. -/
theorem getD_step?_eq (now : Nat) (a : Adapter π) :
    (step? now a).getD a =
      match a.host.nextMove? now with
      | some (e, move) => perform now e ⟨a.turnLink, a.host.mover⟩ move
      | none => ⟨a.turnLink, a.host⟩ := by
  unfold step? Host.nextMove? Host.mover turnLink
  cases a.host.active with
  | some x =>
    by_cases hready : isReady now a.host x = true
    · simp only [hready, if_true, resume_eq_perform, Option.getD_some]
      rfl
    · simp only [hready, Bool.false_eq_true, if_false]
      cases hwaits : a.link.waitsWith? (.caller x.errand.ticket) with
      | some frame => rfl
      | none =>
        rw [Link.afterWait_of_not_waits hwaits]
        rfl
  | none =>
    cases a.host.waiting with
    | nil => rfl
    | cons e rest =>
      simp only [begin_eq_perform]
      rfl

end Adapter

end ZWaveHost
