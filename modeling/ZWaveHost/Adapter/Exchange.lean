/-
  ZWaveHost.Adapter.Exchange — how a request is driven to its end.

  Callers take turns.  The caller whose turn it is hands its request to the
  link, waits there for the line if it has to, and then waits for the end of
  the sequence, for a rejection, or for the deadline; what it does between
  two waits is one step (`step?`).  It takes no notice of what became of the
  frame.  A rejection from an earlier transmission, or one that the ACK has
  overtaken, is stale: it is noticed and forgotten, and the deadline stays.  A
  failed request may be followed by a Soft Reset, which takes its turn behind
  everybody else.

  Main fact: at any one time only so many steps can follow one another
  (`stepsLeft_step`), so `settle` runs them all.
-/
import ZWaveHost.Adapter.Inbound

namespace ZWaveHost

namespace Adapter

variable {π : Type}

/-! ## §1. The end of an exchange -/

/-- The Soft Reset that follows a failed request, if one is wanted and can
    be sent. -/
def recovery? (h : Host) (e : Errand) (outcome : Outcome) : Option Errand :=
  if outcome.state = .failed ∧ e.request.commandId ≠ Request.softResetId
      ∧ h.config.softResetOnFailure ∧ h.running then
    match Request.softReset.toFrame, h.registry.find? Request.softResetId with
    | .ok frame, some entry => some ⟨e.ticket, frame, entry.flow, some outcome⟩
    | _, _ => none
  else none

/-- An exchange has ended.  The caller of a request learns its outcome, after
    the Soft Reset if one follows; the end of a Soft Reset changes nothing. -/
def conclude (h : Host) (e : Errand) (result : Except HostError Outcome) : Host :=
  match e.recovers, result with
  | some failed, _ => h.report (.finished e.ticket (.ok failed))
  | none, .error error => h.report (.finished e.ticket (.error error))
  | none, .ok outcome =>
    match recovery? h e outcome with
    | some reset => { h with waiting := h.waiting ++ [reset] }
    | none => h.report (.finished e.ticket (.ok outcome))

/-- Takes the request out of flight; what is not complete has failed. -/
def finish (h : Host) (e : Errand) : Host :=
  match h.inFlight with
  | none => conclude { h with active := none } e (.error .notRunning)
  | some s =>
    let s := if s.isTerminal then s else s.fail
    conclude { h with active := none, inFlight := none } e (.ok (.ofSequence s))

/-! ## §2. One step of the caller whose turn it is -/

/-- Hands the request in flight to the link, if it may be sent once more, and
    waits. -/
def transmit [Port π] (now : Nat) (e : Errand) (a : Adapter π) : Adapter π :=
  match a.host.inFlight with
  | none => { a with host := finish a.host e }
  | some s =>
    if s.isTerminal || !s.canTransmit then { a with host := finish a.host e }
    else
      match s.start with
      | .error _ => { a with host := finish a.host e }
      | .ok s =>
        let link := a.link.post (.caller e.ticket) (.data s.request)
        let host := { a.host with
          inFlight := some s
          active := some ⟨e, a.host.rejections, now + a.host.config.timeout⟩ }
        ⟨link, host.report (.transmitted e.ticket s.request)⟩

/-- An errand's turn begins. -/
def begin [Port π] (now : Nat) (e : Errand) (a : Adapter π) : Adapter π :=
  let s := (Sequence.new e.request e.flow a.host.config.maxRetries).completion.2
  transmit now e { a with host := { a.host with inFlight := some s } }

/-- Sends the request once more, as a further attempt. -/
def transmitAgain [Port π] (now : Nat) (e : Errand) (s : Sequence) (a : Adapter π) : Adapter π :=
  transmit now e { a with host := { a.host with inFlight := some s.retry } }

/-- Whether a rejection that is noticed now answers the last transmission. -/
def isFresh (h : Host) (x : Exchange) (s : Sequence) : Bool :=
  h.rejections ≠ x.rejectionsSeen && s.state = .waitingForAck

/-- Whether a sequence that has reached its deadline is to be sent again. -/
def retriesAtDeadline (c : Config) (s : Sequence) : Bool :=
  if s.state.isTerminal then false
  else if s.state = .waitingForAck then c.retryOnAckTimeout
  else c.retryOnResponseTimeout

/-- Whether the sequence has told its caller that it is over. -/
def isSignalled (s : Sequence) : Bool := s.signals[0]? ≠ some .waiting

/-- The rejections so far have been noticed. -/
def notice (h : Host) : Host := { h with permit := false }

/-- The caller looks up from its wait: at the end of the sequence, at a
    rejection, or at the deadline. -/
def resume [Port π] (now : Nat) (x : Exchange) (a : Adapter π) : Adapter π :=
  match a.host.inFlight with
  | none => { a with host := finish a.host x.errand }
  | some s =>
    if isSignalled s then { a with host := finish a.host x.errand }
    else
      let b : Adapter π := ⟨a.link, notice a.host⟩
      if a.host.permit && isFresh a.host x s then transmitAgain now x.errand s b
      else if x.deadline ≤ now then
        if retriesAtDeadline a.host.config s then transmitAgain now x.errand s b
        else { b with host := finish b.host x.errand }
      else b

/-- Whether the caller has something to look up for. -/
def isReady (now : Nat) (h : Host) (x : Exchange) : Bool :=
  h.permit || x.deadline ≤ now || h.inFlight.all isSignalled

/-- The line of errands once its first has left it. -/
def leaveLine (h : Host) (rest : List Errand) : Host := { h with waiting := rest }

/-- A caller's wait for the line is over, if it waits there. -/
def endWait [Port π] (ticket : Nat) (a : Adapter π) : Adapter π :=
  { a with link := a.link.afterWait (.caller ticket) }

/-- One step: the caller whose turn it is ends its wait for the line, if it is
    there, and looks up if there is a reason; or the next turn begins. -/
def step? [Port π] (now : Nat) (a : Adapter π) : Option (Adapter π) :=
  match a.host.active, a.host.waiting with
  | some x, _ =>
    if isReady now a.host x then some (resume now x (a.endWait x.errand.ticket))
    else if (a.link.waitsWith? (.caller x.errand.ticket)).isSome then
      some (a.endWait x.errand.ticket)
    else none
  | none, [] => none
  | none, e :: rest => some (begin now e ⟨a.link, leaveLine a.host rest⟩)

/-! ## §3. Only so many steps -/

/-- How many steps an errand may still cause before its turn. -/
def errandWork (e : Errand) : Nat := if e.recovers.isSome then 4 else 8

/-- How many steps the errands in line may still cause. -/
def lineWork : List Errand → Nat
  | [] => 0
  | e :: rest => errandWork e + lineWork rest

/-- How many steps an exchange may still cause. -/
def exchangeWork (now : Nat) (x : Exchange) : Nat :=
  errandWork x.errand - 2 + if x.deadline ≤ now then 1 else 0

/-- How many steps can follow one another at one time. -/
def work (now : Nat) (h : Host) : Nat :=
  lineWork h.waiting + ((h.active.map (exchangeWork now)).getD 0
    + if h.permit then 1 else 0)

theorem errandWork_pos (e : Errand) : 4 ≤ errandWork e := by
  unfold errandWork
  split <;> omega

theorem lineWork_append (es es2 : List Errand) :
    lineWork (es ++ es2) = lineWork es + lineWork es2 := by
  induction es with
  | nil => simp [lineWork]
  | cons e rest ih => simp only [List.cons_append, lineWork, ih]; omega

theorem work_report (now : Nat) (h : Host) (r : Report) : work now (h.report r) = work now h := rfl

/-- What the errands in line and an unnoticed rejection come to. -/
def workBehind (h : Host) : Nat :=
  lineWork h.waiting + if h.permit then 1 else 0

theorem workBehind_notice (h : Host) :
    workBehind (notice h) + (if h.permit then 1 else 0) = workBehind h := by
  simp [workBehind, notice]

theorem work_conclude (now : Nat) (h : Host) (e : Errand) (result : Except HostError Outcome)
    (ha : h.active = none) :
    work now (conclude h e result) + 4 ≤ workBehind h + errandWork e := by
  have hpos := errandWork_pos e
  unfold conclude
  split
  · rw [work_report]
    simp only [work, workBehind, ha, Option.map_none, Option.getD_none]
    omega
  · rw [work_report]
    simp only [work, workBehind, ha, Option.map_none, Option.getD_none]
    omega
  · next outcome he =>
    have h8 : errandWork e = 8 := by simp [errandWork, he]
    split
    · next reset hr =>
      have h4 : errandWork reset = 4 := by
        unfold recovery? at hr
        split at hr
        · split at hr
          · rw [← Option.some.inj hr]
            rfl
          · cases hr
        · cases hr
      simp only [work, workBehind, ha, Option.map_none, Option.getD_none, lineWork_append,
        lineWork, h4, h8]
      omega
    · rw [work_report]
      simp only [work, workBehind, ha, Option.map_none, Option.getD_none]
      omega

theorem work_finish (now : Nat) (h : Host) (e : Errand) :
    work now (finish h e) + 4 ≤ workBehind h + errandWork e := by
  unfold finish
  split
  · exact work_conclude now _ e _ rfl
  · exact work_conclude now _ e _ rfl

theorem timeout_pos (h : Host) : 0 < h.config.timeout := by
  have hne := h.valid.timeoutMs_ne
  unfold Config.timeout
  rw [Nat.pos_iff_ne_zero]
  intro h0
  exact hne (UInt64.toNat_inj.mp h0)

theorem work_transmit [Port π] (now : Nat) (e : Errand) (a : Adapter π) :
    work now (transmit now e a).host + 2 ≤ workBehind a.host + errandWork e := by
  have hf := work_finish now a.host e
  have hpos := errandWork_pos e
  unfold transmit
  split
  · exact Nat.le_trans (by simp) hf
  · split
    · exact Nat.le_trans (by simp) hf
    · split
      · exact Nat.le_trans (by simp) hf
      · have ht := timeout_pos a.host
        have hd : ¬ now + a.host.config.timeout ≤ now := by omega
        simp only
        rw [work_report]
        simp only [work, workBehind, exchangeWork, Option.map_some,
          Option.getD_some, hd, if_false]
        omega

theorem work_begin [Port π] (now : Nat) (e : Errand) (a : Adapter π) :
    work now (begin now e a).host + 2 ≤ workBehind a.host + errandWork e :=
  work_transmit now e _

theorem work_transmitAgain [Port π] (now : Nat) (e : Errand) (s : Sequence) (a : Adapter π) :
    work now (transmitAgain now e s a).host + 2 ≤ workBehind a.host + errandWork e :=
  work_transmit now e _

theorem work_resume [Port π] (now : Nat) (x : Exchange) (a : Adapter π)
    (hx : a.host.active = some x) (hr : isReady now a.host x = true) :
    work now (resume now x a).host < work now a.host := by
  have hpos := errandWork_pos x.errand
  have hw : work now a.host = workBehind a.host + exchangeWork now x := by
    simp only [work, workBehind, hx, Option.map_some, Option.getD_some]
    omega
  have hx2 : errandWork x.errand - 2 ≤ exchangeWork now x := by
    unfold exchangeWork
    omega
  have hf := work_finish now a.host x.errand
  unfold resume
  split
  · show work now (finish a.host x.errand) < _
    omega
  · next s hs =>
    split
    · show work now (finish a.host x.errand) < _
      omega
    · next hns =>
      -- what is behind does not grow when the rejection is noticed
      have hb := workBehind_notice a.host
      have ha := work_transmitAgain now x.errand s ⟨a.link, notice a.host⟩
      simp only at ha
      simp only
      split
      · next hp =>
        have hp : a.host.permit = true := by
          simp only [Bool.and_eq_true] at hp
          exact hp.1
        simp only [hp, if_true] at hb
        omega
      · split
        · next hd =>
          have hx3 : exchangeWork now x = errandWork x.errand - 2 + 1 := by
            simp only [exchangeWork, hd, if_true]
          have hf := work_finish now (notice a.host) x.errand
          split
          · omega
          · simp only
            omega
        · next hd =>
          have hp : a.host.permit = true := by
            simp only [isReady, hs, Option.all_some, hns, hd, decide_false, Bool.or_false] at hr
            exact hr
          simp only [hp, if_true] at hb
          have hn : work now (notice a.host) = workBehind (notice a.host) + exchangeWork now x := by
            simp only [work, workBehind, notice, hx, Option.map_some, Option.getD_some]
            omega
          show work now (notice a.host) < _
          omega

/-- A caller that sends makes one more wait for the line at most. -/
theorem length_waiters_transmit [Port π] (now : Nat) (e : Errand) (a : Adapter π) :
    (transmit now e a).link.waiters.length ≤ a.link.waiters.length + 1 := by
  unfold transmit
  split
  · exact Nat.le_succ _
  · split
    · exact Nat.le_succ _
    · split
      · exact Nat.le_succ _
      · exact a.link.length_post _ _

theorem length_waiters_resume [Port π] (now : Nat) (x : Exchange) (a : Adapter π) :
    (resume now x a).link.waiters.length ≤ a.link.waiters.length + 1 := by
  unfold resume
  split
  · exact Nat.le_succ _
  · split
    · exact Nat.le_succ _
    · dsimp only
      split
      · exact length_waiters_transmit now _ _
      · split
        · split
          · exact length_waiters_transmit now _ _
          · exact Nat.le_succ _
        · exact Nat.le_succ _

/-- How many steps can follow one another, with those that only end a wait for
    the line. -/
def stepsLeft (now : Nat) (a : Adapter π) : Nat := 2 * work now a.host + a.link.waiters.length

/-- Every step leaves fewer steps to follow. -/
theorem stepsLeft_step [Port π] {now : Nat} {a b : Adapter π} (h : step? now a = some b) :
    stepsLeft now b < stepsLeft now a := by
  unfold step? at h
  unfold stepsLeft
  split at h
  · next _ x hx =>
    split at h
    · next hr =>
      -- there is less work, and the one that looks up may be at the line once more
      rw [← Option.some.inj h]
      have hwork := work_resume now x (a.endWait x.errand.ticket) hx hr
      have hline := length_waiters_resume now x (a.endWait x.errand.ticket)
      have hended := a.link.length_afterWait_le (.caller x.errand.ticket)
      simp only [endWait] at hwork hline ⊢
      omega
    · split at h
      · next hwaits =>
        rw [← Option.some.inj h]
        have hended := a.link.length_afterWait hwaits
        simp only [endWait]
        omega
      · cases h
  · cases h
  · next e rest hx hq =>
    rw [← Option.some.inj h]
    have hb := work_begin now e ⟨a.link, leaveLine a.host rest⟩
    have hl : workBehind (leaveLine a.host rest) + errandWork e = work now a.host := by
      simp only [work, workBehind, leaveLine, hx, hq, Option.map_none, Option.getD_none,
        lineWork]
      omega
    have hline : (begin now e ⟨a.link, leaveLine a.host rest⟩).link.waiters.length
        ≤ a.link.waiters.length + 1 := length_waiters_transmit now e _
    simp only at hb
    omega

/-- Runs every step that can follow at one time. -/
def runSteps [Port π] (now : Nat) (a : Adapter π) : Adapter π :=
  match _h : step? now a with
  | none => a
  | some b => runSteps now b
termination_by stepsLeft now a
decreasing_by exact stepsLeft_step ‹_›

end Adapter

end ZWaveHost
