/-
  ZWaveHost.Proofs.Exchange.Ending — every exchange comes to an end.

  A wait ends at its deadline at the latest, since time goes on and a caller
  goes on taking steps; a transmission that follows uses up an attempt.  So
  no schedule of events, in whatever order, keeps an exchange going for ever.

  Main fact: an exchange ends, and its outcome gives a true account of it
  (`exchange_ends`).
-/
import ZWaveHost.Proofs.Exchange.Course

namespace ZWaveHost

variable {π : Type} [Port π]

/-! ## §1. Time goes on -/

namespace Moment

theorem now_le_after (m : Moment π) (event : Event π) : m.now ≤ (m.after event).now := by
  cases event with
  | pass milliseconds => exact Nat.le_add_right m.now milliseconds
  | _ => exact Nat.le_refl m.now

theorem now_along_mono (m : Moment π) (schedule : Nat → Event π) {n k : Nat} (h : n ≤ k) :
    (m.along schedule n).now ≤ (m.along schedule k).now := by
  induction h with
  | refl => exact Nat.le_refl _
  | step _ ih => exact Nat.le_trans ih (now_le_after _ _)

/-- In a fair schedule a caller takes a step at any time, after any moment. -/
theorem Fair.exists_look {m : Moment π} {schedule : Nat → Event π} (hfair : m.Fair schedule)
    (n time : Nat) :
    ∃ j, schedule (n + j) = .look ∧ time ≤ (m.along schedule (n + j)).now := by
  rcases hfair (max time ((m.along schedule n).now + 1)) with ⟨k, hlook, hlate⟩
  -- time never runs back, so a look after this moment's time comes after it
  have hnk : n ≤ k := by
    rcases Nat.lt_or_ge k n with hkn | hnk
    · have hback := m.now_along_mono schedule (Nat.le_of_lt hkn)
      omega
    · exact hnk
  refine ⟨k - n, ?_⟩
  rw [Nat.add_sub_cancel' hnk]
  exact ⟨hlook, by omega⟩

end Moment

/-- A caller that looks up every millisecond. -/
def Event.tick (n : Nat) : Event π := if n % 2 = 0 then .pass 1 else .look

omit [Port π] in
theorem Event.spares_tick (ticket n : Nat) : (Event.tick n : Event π).Spares ticket := by
  unfold Event.tick
  split <;> exact trivial

/-- There are fair schedules. -/
theorem Moment.fair_tick (m : Moment π) : m.Fair Event.tick := by
  intro time
  -- every second event is a millisecond
  have heven (k : Nat) : k ≤ (m.along Event.tick (2 * k)).now := by
    induction k with
    | zero => exact Nat.zero_le _
    | succ k ih =>
      have hpass : (Event.tick (2 * k) : Event π) = .pass 1 := if_pos (Nat.mul_mod_right 2 k)
      have hstep := (m.along Event.tick (2 * k)).after (.pass 1) |>.now_le_after
        (Event.tick (2 * k + 1))
      show k + 1 ≤ (((m.along Event.tick (2 * k)).after (Event.tick (2 * k))).after _).now
      rw [hpass]
      exact Nat.le_trans (Nat.succ_le_succ ih) hstep
  refine ⟨2 * time + 1, ?_, ?_⟩
  · exact if_neg (by omega)
  · exact Nat.le_trans (heven time) (now_le_after _ _)

/-! ## §2. Waits come to an end -/

section

variable {e : Errand} {m₀ : Moment π} {schedule : Nat → Event π}

/-- The exchange ends somewhere along a schedule. -/
def EndsAlong (e : Errand) (m₀ : Moment π) (schedule : Nat → Event π) : Prop :=
  ∃ n log, ExchangeRun e m₀ log ((m₀.after .look).along schedule n)
    ∧ ((m₀.after .look).along schedule n).host.active = none

/-- The exchange is under way at a point of a schedule, waiting as `x` says,
    after transmissions at these times. -/
def WaitsAt (e : Errand) (m₀ : Moment π) (schedule : Nat → Event π) (n : Nat) (x : Exchange)
    (times : List Nat) : Prop :=
  ∃ log s, ExchangeRun e m₀ log ((m₀.after .look).along schedule n)
    ∧ Underway e m₀.host log ((m₀.after .look).along schedule n).host x s
    ∧ transmissionTimes log = times

/-- One more transmission has been made at some point of a schedule. -/
def Progresses (e : Errand) (m₀ : Moment π) (schedule : Nat → Event π) (times : List Nat) : Prop :=
  ∃ n x more, WaitsAt e m₀ schedule n x (times ++ [more])

variable (hspares : ∀ n, (schedule n).Spares e.ticket)

include hspares

/-- At each point of a schedule the wait goes on, unless it is a look at or
    after the deadline. -/
theorem WaitsAt.next {n : Nat} {x : Exchange} {times : List Nat}
    (hw : WaitsAt e m₀ schedule n x times) :
    EndsAlong e m₀ schedule ∨ Progresses e m₀ schedule times
      ∨ WaitsAt e m₀ schedule (n + 1) x times
        ∧ (schedule n = .look → ((m₀.after .look).along schedule n).now < x.deadline) := by
  rcases hw with ⟨log, s, run, hu, htimes⟩
  have hturn : ((m₀.after .look).along schedule n).host.active.isSome = true := by
    rw [hu.active]
    rfl
  have hrun := run.next hturn (schedule n) (hspares n)
  cases hu.continues (hspares n) with
  | waits t ht hsame hearly =>
    exact .inr (.inr ⟨⟨_, t, hrun, ht, hsame.trans htimes⟩, hearly⟩)
  | transmits x' t _ ht hmore _ =>
    rw [htimes] at hmore
    exact .inr (.inl ⟨n + 1, x', _, _, t, hrun, ht, hmore⟩)
  | ends o _ _ hend => exact .inl ⟨n + 1, _, hrun, hend.active_eq⟩

theorem WaitsAt.add {n : Nat} {x : Exchange} {times : List Nat}
    (hw : WaitsAt e m₀ schedule n x times) (j : Nat) :
    EndsAlong e m₀ schedule ∨ Progresses e m₀ schedule times
      ∨ WaitsAt e m₀ schedule (n + j) x times := by
  -- by induction on how far along; ends and progress need not be followed up
  induction j with
  | zero => exact .inr (.inr hw)
  | succ j ih =>
    rcases ih with hends | hprogress | hwaits
    · exact .inl hends
    · exact .inr (.inl hprogress)
    · rcases hwaits.next hspares with hends | hprogress | ⟨hnext, _⟩
      · exact .inl hends
      · exact .inr (.inl hprogress)
      · exact .inr (.inr hnext)

/-- **A wait comes to an end**: the exchange is over, or the request is sent once more. -/
theorem WaitsAt.ends_or_progresses {n : Nat} {x : Exchange} {times : List Nat}
    (hw : WaitsAt e m₀ schedule n x times) (hfair : (m₀.after .look).Fair schedule) :
    EndsAlong e m₀ schedule ∨ Progresses e m₀ schedule times := by
  rcases hfair.exists_look n x.deadline with ⟨j, hlook, hlate⟩
  rcases hw.add hspares j with hends | hprogress | hwaits
  · exact .inl hends
  · exact .inr hprogress
  · rcases hwaits.next hspares with hends | hprogress | ⟨_, hearly⟩
    · exact .inl hends
    · exact .inr hprogress
    · -- a caller that looks up this late does not go on waiting
      have hbefore := hearly hlook
      omega

/-- **No exchange goes on for ever**: each further transmission uses up an attempt. -/
theorem WaitsAt.ends {n : Nat} {x : Exchange} {times : List Nat}
    (hw : WaitsAt e m₀ schedule n x times) (hfair : (m₀.after .look).Fair schedule)
    (hmax : m₀.host.config.maxRetries < 0xFFFFFFFF) : EndsAlong e m₀ schedule := by
  have hbound {n : Nat} {x : Exchange} {times : List Nat} (hw : WaitsAt e m₀ schedule n x times) :
      times.length ≤ m₀.host.config.maxRetries.toNat := by
    rcases hw with ⟨log, s, _, hu, htimes⟩
    rw [← htimes, ← hu.counted hmax]
    exact UInt32.le_iff_toNat_le.mp hu.attempt_le
  -- by induction on the attempts that are left; none is left at the bound
  induction hleft : m₀.host.config.maxRetries.toNat - times.length generalizing n x times with
  | zero =>
    rcases hw.ends_or_progresses hspares hfair with hends | ⟨k, x', more, hmore⟩
    · exact hends
    · have hle := hbound hmore
      rw [List.length_append, List.length_singleton] at hle
      omega
  | succ left ih =>
    rcases hw.ends_or_progresses hspares hfair with hends | ⟨k, x', more, hmore⟩
    · exact hends
    · apply ih hmore
      rw [List.length_append, List.length_singleton]
      omega

end

/-! ## §3. Exchanges come to an end -/

/-- **An exchange ends**, whatever happens in whatever order while its caller
    stays, and its outcome gives a true account of it: complete or failed,
    with the number of transmissions, all of the same request, and with the
    answers that a complete one calls for. -/
theorem exchange_ends {e : Errand} {rest : List Errand} {m₀ : Moment π}
    (hactive : m₀.host.active = none) (hwaiting : m₀.host.waiting = e :: rest)
    (hmax : m₀.host.config.maxRetries < 0xFFFFFFFF) :
    (∀ schedule : Nat → Event π, (∀ n, (schedule n).Spares e.ticket) →
      (m₀.after .look).Fair schedule → EndsAlong e m₀ schedule)
    ∧ ∀ log m, ExchangeRun e m₀ log m → m.host.active = none →
      ∃ before o, log = before ++ [.ended e (.ok o)] ∧ EndsWith e m₀.host before m.host o
        ∧ o.Accounts e m₀.host before := by
  constructor
  · intro schedule hspares hfair
    rcases Underway.begin hactive hwaiting with ⟨x, s, hu⟩
    have hw : WaitsAt e m₀ schedule 0 x (transmissionTimes (m₀.happenings .look)) :=
      ⟨_, s, .begin, hu, rfl⟩
    exact hw.ends hspares hfair hmax
  · intro log m run hover
    rcases run.course hactive hwaiting with ⟨x, s, hu⟩ | ⟨before, o, hlog, hend⟩
    · rw [hu.active] at hover
      cases hover
    · exact ⟨before, o, hlog, hend, hend.accounts hmax⟩

/-- The transmission of two bytes to node 5 ends, though the module stays silent. -/
theorem exchange_ends_in_silence :
    Moment.toNodeFive.host.active = none
      ∧ Moment.toNodeFive.host.waiting = [.toNodeFive]
      ∧ Moment.toNodeFive.host.config.maxRetries < 0xFFFFFFFF
      ∧ EndsAlong .toNodeFive .toNodeFive Event.tick
      ∧ ∀ log m, ExchangeRun .toNodeFive .toNodeFive log m → m.host.active = none →
        ∃ before o, log = before ++ [.ended .toNodeFive (.ok o)]
          ∧ EndsWith .toNodeFive Moment.toNodeFive.host before m.host o
          ∧ o.Accounts .toNodeFive Moment.toNodeFive.host before := by
  have hmax : Moment.toNodeFive.host.config.maxRetries < 0xFFFFFFFF := by decide
  have hactive : Moment.toNodeFive.host.active = none := rfl
  have hwaiting : Moment.toNodeFive.host.waiting = [.toNodeFive] := rfl
  have hend := exchange_ends hactive hwaiting hmax
  exact ⟨hactive, hwaiting, hmax,
    hend.1 Event.tick (Event.spares_tick 0) (Moment.fair_tick _), hend.2⟩

end ZWaveHost
