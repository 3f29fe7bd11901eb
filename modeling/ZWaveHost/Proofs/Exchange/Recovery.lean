/-
  ZWaveHost.Proofs.Exchange.Recovery — the Soft Reset that follows a failed
  request.

  A call is one exchange, and perhaps a second one that sends a Soft Reset.
  Both take their turn in the same line, share the request in flight and the
  count of rejections, and may meet anything from the module.

  Main facts: every event moves a call on along its course or leaves it where
  it is (`CallAt.after`), and every caller that stays gets an outcome
  (`Fair.exists_outcome`).

  Main statement: a Soft Reset is attempted once, after a request that has
  failed and where the settings want it, and never otherwise; the caller gets
  the outcome of its own request (`soft_reset_follows_once`).
-/
import ZWaveHost.Proofs.Exchange.Progress

namespace ZWaveHost

open Adapter

variable {π : Type} [Port π]

/-! ## §1. The course of a call -/

/-- Whether a Soft Reset is wanted after an exchange. -/
def Config.WantsReset (c : Config) (e : Errand) (o : Outcome) : Prop :=
  o.state = .failed ∧ e.request.commandId ≠ Request.softResetId ∧ c.softResetOnFailure = true

/-- The frame of a Soft Reset. -/
def Request.softResetFrame : DataFrame := ⟨3, .request, Request.softResetId, [], 0xF4⟩

theorem Request.toFrame_softReset : Request.softReset.toFrame = .ok softResetFrame := rfl

/-- The Soft Reset that follows an errand that has failed with this outcome. -/
def Errand.reset (e : Errand) (flow : Flow) (failed : Outcome) : Errand :=
  ⟨e.ticket, Request.softResetFrame, flow, some failed⟩

/-- The transmissions of an exchange: all of its request, and not too many. -/
structure Attempts (c : Config) (e : Errand) (marks : List CallMark) : Prop where
  same : ∀ mark ∈ marks, mark = .transmitted e e.request
  bound : c.maxRetries < 0xFFFFFFFF → marks.length ≤ c.maxRetries.toNat

/-- The transmissions of an exchange that has ended with an outcome. -/
structure Exchanged (c : Config) (e : Errand) (marks : List CallMark) (o : Outcome) : Prop
    extends Attempts c e marks where
  counts : o.Counts c marks.length

/-- How far the call of an errand has come: what has been noted of it, its
    errand that waits or has the turn, and the result of its caller. -/
inductive CallCourse (c : Config) (e : Errand) :
    List CallMark → List Errand → List (Except HostError Outcome) → Prop
  /-- Its own exchange is in line or under way. -/
  | sending {sent : List CallMark} (hsent : Attempts c e sent) : CallCourse c e sent [e] []
  /-- Its own exchange is over, and no Soft Reset is wanted. -/
  | settled {sent : List CallMark} {o : Outcome} {reset : Except HostError (DataFrame × Flow)}
    (hsent : Exchanged c e sent o) (hunwanted : ¬ c.WantsReset e o) :
    CallCourse c e (sent ++ [.ended e (.ok o) reset]) [] [.ok o]
  /-- The Soft Reset that is wanted cannot be sent. -/
  | unrecoverable {sent : List CallMark} {o : Outcome} {error : HostError}
    (hsent : Exchanged c e sent o) (hwanted : c.WantsReset e o)
    (herror : error = .notRunning ∨ error = .unregisteredCommand Request.softResetId) :
    CallCourse c e (sent ++ [.ended e (.ok o) (.error error)]) [] [.ok o]
  /-- The Soft Reset is in line or under way. -/
  | recovering {sent again : List CallMark} {o : Outcome} {flow : Flow}
    (hsent : Exchanged c e sent o) (hwanted : c.WantsReset e o)
    (hagain : Attempts c (e.reset flow o) again) :
    CallCourse c e (sent ++ .ended e (.ok o) (.ok (Request.softResetFrame, flow)) :: again)
      [e.reset flow o] []
  /-- The Soft Reset is over as well. -/
  | recovered {sent again : List CallMark} {o o' : Outcome} {flow : Flow}
    {reset : Except HostError (DataFrame × Flow)}
    (hsent : Exchanged c e sent o) (hwanted : c.WantsReset e o)
    (hagain : Exchanged c (e.reset flow o) again o') :
    CallCourse c e (sent ++ .ended e (.ok o) (.ok (Request.softResetFrame, flow)) :: again
      ++ [.ended (e.reset flow o) (.ok o') reset]) [] [.ok o]

namespace Attempts

variable {c : Config} {e : Errand} {marks : List CallMark}

theorem nil (c : Config) (e : Errand) : Attempts c e [] where
  same := fun mark hmem => by cases hmem
  bound _ := Nat.zero_le _

theorem concat (ha : Attempts c e marks)
    (hbound : c.maxRetries < 0xFFFFFFFF → marks.length + 1 ≤ c.maxRetries.toNat) :
    Attempts c e (marks ++ [.transmitted e e.request]) where
  same := by
    intro mark hmem
    rcases List.mem_append.mp hmem with hold | hnew
    · exact ha.same mark hold
    · exact List.mem_singleton.mp hnew
  bound hmax := by
    rw [List.length_append]
    exact hbound hmax

theorem length_frames (ha : Attempts c e marks) (hmax : c.maxRetries < 0xFFFFFFFF) :
    (marks.filterMap CallMark.frame?).length ≤ c.maxRetries.toNat :=
  Nat.le_trans (List.length_filterMap_le _ _) (ha.bound hmax)

end Attempts

/-- Once nothing of its call is left to do, a caller has an outcome. -/
theorem CallCourse.exists_outcome {c : Config} {e : Errand} {marks : List CallMark}
    {results : List (Except HostError Outcome)} (hc : CallCourse c e marks [] results) :
    ∃ o, results = [.ok o] := by
  cases hc with
  | settled _ _ => exact ⟨_, rfl⟩
  | unrecoverable _ _ _ => exact ⟨_, rfl⟩
  | recovered _ _ _ => exact ⟨_, rfl⟩

/-- The end of an exchange sends nothing. -/
theorem frames_ended (before more : List CallMark) (e : Errand)
    (result : Except HostError Outcome) (reset : Except HostError (DataFrame × Flow)) :
    (before ++ .ended e result reset :: more).filterMap CallMark.frame?
      = before.filterMap CallMark.frame? ++ more.filterMap CallMark.frame? := by
  rw [List.filterMap_append, List.filterMap_cons_none rfl]

/-- **A call sends no more than twice as often as an exchange may.** -/
theorem CallCourse.length_frames {c : Config} {e : Errand} {marks : List CallMark}
    {pending : List Errand} {results : List (Except HostError Outcome)}
    (hc : CallCourse c e marks pending results) (hmax : c.maxRetries < 0xFFFFFFFF) :
    (marks.filterMap CallMark.frame?).length ≤ 2 * c.maxRetries.toNat := by
  cases hc with
  | sending hsent =>
    have hfirst := hsent.length_frames hmax
    omega
  | settled hsent hunwanted =>
    have hfirst := hsent.length_frames hmax
    rw [frames_ended, List.filterMap_nil, List.append_nil]
    omega
  | unrecoverable hsent hwanted herror =>
    have hfirst := hsent.length_frames hmax
    rw [frames_ended, List.filterMap_nil, List.append_nil]
    omega
  | recovering hsent hwanted hagain =>
    have hfirst := hsent.length_frames hmax
    have hsecond := hagain.length_frames hmax
    rw [frames_ended, List.length_append]
    omega
  | recovered hsent hwanted hagain =>
    have hfirst := hsent.length_frames hmax
    have hsecond := hagain.length_frames hmax
    rw [frames_ended, frames_ended, List.filterMap_nil, List.append_nil, List.length_append]
    omega

/-! ## §2. The end of an exchange -/

section

variable {h : Host} {e : Errand} {o : Outcome}

/-- **A Soft Reset can be sent**, or the adapter is not running, or the command
    is not registered. -/
theorem examine_softReset (h : Host) :
    (∃ error, examine h .softReset = .error error
      ∧ (error = .notRunning ∨ error = .unregisteredCommand Request.softResetId))
    ∨ ∃ flow, examine h .softReset = .ok (Request.softResetFrame, flow) := by
  unfold examine
  rw [Request.toFrame_softReset]
  dsimp only
  split
  · exact .inl ⟨_, rfl, .inl rfl⟩
  · cases hentry : h.registry.find? Request.softResetFrame.commandId with
    | none => exact .inl ⟨_, rfl, .inr rfl⟩
    | some entry => exact .inr ⟨entry.flow, rfl⟩

/-- What a Soft Reset meets at an adapter that is running. -/
theorem examine_softReset_of_running (hrunning : h.running = true) :
    examine h .softReset = match h.registry.find? Request.softResetId with
      | none => .error (.unregisteredCommand Request.softResetId)
      | some entry => .ok (Request.softResetFrame, entry.flow) := by
  unfold examine
  rw [Request.toFrame_softReset, hrunning]
  rfl

/-- What follows an exchange after which a Soft Reset is wanted. -/
theorem recovery?_of_wanted (hwanted : h.config.WantsReset e o) (hrunning : h.running = true) :
    recovery? h e o
      = (h.registry.find? Request.softResetId).map fun entry => e.reset entry.flow o := by
  obtain ⟨hfailed, hother, hflag⟩ := hwanted
  unfold recovery?
  rw [if_pos ⟨hfailed, hother, hflag, hrunning⟩, Request.toFrame_softReset]
  cases h.registry.find? Request.softResetId with
  | none => rfl
  | some entry => rfl

/-- No Soft Reset follows if none is wanted, or if it cannot be sent. -/
theorem recovery?_eq_none
    (hnone : ¬ h.config.WantsReset e o ∨ ∃ error, examine h .softReset = .error error) :
    recovery? h e o = none := by
  by_cases hwanted : h.config.WantsReset e o ∧ h.running = true
  · obtain ⟨error, hexamined⟩ := hnone.resolve_left (not_not_intro hwanted.1)
    rw [examine_softReset_of_running hwanted.2] at hexamined
    rw [recovery?_of_wanted hwanted.1 hwanted.2]
    cases hentry : h.registry.find? Request.softResetId with
    | none => rfl
    | some entry =>
      rw [hentry] at hexamined
      cases hexamined
  · unfold recovery?
    exact if_neg fun ⟨hfailed, hother, hflag, hrunning⟩ =>
      hwanted ⟨⟨hfailed, hother, hflag⟩, hrunning⟩

/-- The Soft Reset that is wanted and can be sent follows. -/
theorem recovery?_eq_some {flow : Flow} (hwanted : h.config.WantsReset e o)
    (hexamined : examine h .softReset = .ok (Request.softResetFrame, flow)) :
    recovery? h e o = some (e.reset flow o) := by
  have hrunning : h.running = true := by
    cases hrunning : h.running with
    | true => rfl
    | false =>
      unfold examine at hexamined
      rw [Request.toFrame_softReset, hrunning] at hexamined
      cases hexamined
  rw [examine_softReset_of_running hrunning] at hexamined
  rw [recovery?_of_wanted hwanted hrunning]
  cases hentry : h.registry.find? Request.softResetId with
  | none =>
    rw [hentry] at hexamined
    cases hexamined
  | some entry =>
    rw [hentry] at hexamined
    cases hexamined
    rfl

/-- The end of a Soft Reset gives the caller the outcome of its request. -/
theorem conclude_of_recovers {failed : Outcome} (hrecovers : e.recovers = some failed)
    (result : Except HostError Outcome) :
    conclude h e result = h.report (.finished e.ticket (.ok failed)) := by
  unfold conclude
  rw [hrecovers]

theorem conclude_of_recovery {reset : Errand} (hrecovers : e.recovers = none)
    (hreset : recovery? h e o = some reset) :
    conclude h e (.ok o) = { h with waiting := h.waiting ++ [reset] } := by
  unfold conclude
  rw [hrecovers]
  dsimp only
  rw [hreset]

theorem conclude_of_no_recovery (hrecovers : e.recovers = none) (hnone : recovery? h e o = none) :
    conclude h e (.ok o) = h.report (.finished e.ticket (.ok o)) := by
  unfold conclude
  rw [hrecovers]
  dsimp only
  rw [hnone]

/-- A caller that leaves changes neither the settings nor what a Soft Reset meets. -/
theorem Host.left_eq (h : Host) : h.left.config = h.config ∧ h.left.outbox = h.outbox
    ∧ examine h.left .softReset = examine h .softReset := by
  obtain ⟨_, _, hmover⟩ := h.mover_eq
  unfold left
  rw [hmover]
  exact ⟨rfl, rfl, rfl⟩

end

/-! ## §3. All of a call -/

/-- Where the call of an errand stands, unless its caller is `gone`. -/
inductive CallAt (c : Config) (e : Errand) (gone : Prop) (marks : List CallMark) (h : Host) : Prop
  | sending (hsent : Attempts c e marks) (hpending : h.pending e.ticket = [e])
    (hresults : h.results e.ticket = []) (hstage : Stage c e marks.length h)
  | recovering {sent again : List CallMark} {o : Outcome} {flow : Flow}
    (hmarks : marks = sent ++ .ended e (.ok o) (.ok (Request.softResetFrame, flow)) :: again)
    (hsent : Exchanged c e sent o) (hwanted : c.WantsReset e o)
    (hagain : Attempts c (e.reset flow o) again)
    (hpending : h.pending e.ticket = [e.reset flow o]) (hresults : h.results e.ticket = [])
    (hstage : Stage c (e.reset flow o) again.length h)
  | closed {results : List (Except HostError Outcome)} (hcourse : CallCourse c e marks [] results)
    (hpending : h.pending e.ticket = []) (hresults : h.results e.ticket = results)
  | abandoned {pending : List Errand} (hgone : gone) (hcourse : CallCourse c e marks pending [])
    (hpending : h.pending e.ticket = []) (hresults : h.results e.ticket = [])

namespace CallAt

variable {c : Config} {e : Errand} {gone : Prop} {marks : List CallMark}

theorem mono {gone' : Prop} {h : Host} (hc : CallAt c e gone marks h) (hgone : gone → gone') :
    CallAt c e gone' marks h := by
  cases hc with
  | sending hsent hpending hresults hstage => exact .sending hsent hpending hresults hstage
  | recovering hmarks hsent hwanted hagain hpending hresults hstage =>
    exact .recovering hmarks hsent hwanted hagain hpending hresults hstage
  | closed hcourse hpending hresults => exact .closed hcourse hpending hresults
  | abandoned hg hcourse hpending hresults =>
    exact .abandoned (hgone hg) hcourse hpending hresults

/-- Where a call stands is a point of its course. -/
theorem course {h : Host} (hc : CallAt c e gone marks h) :
    CallCourse c e marks (h.pending e.ticket) (h.results e.ticket)
      ∨ gone ∧ h.pending e.ticket = [] ∧ h.results e.ticket = []
        ∧ ∃ pending, CallCourse c e marks pending [] := by
  cases hc with
  | sending hsent hpending hresults _ =>
    rw [hpending, hresults]
    exact .inl (.sending hsent)
  | recovering hmarks hsent hwanted hagain hpending hresults _ =>
    rw [hpending, hresults, hmarks]
    exact .inl (.recovering hsent hwanted hagain)
  | closed hcourse hpending hresults =>
    rw [hpending, hresults]
    exact .inl hcourse
  | abandoned hgone hcourse hpending hresults =>
    exact .inr ⟨hgone, hpending, hresults, _, hcourse⟩

variable {m : Moment π}

/-- **The end of the request's own exchange**: the caller has its outcome, or a
    Soft Reset follows. -/
theorem of_ended {h : Host} {o : Outcome} (he : e.recovers = none) (hconfig : h.config = c)
    (hsent : Exchanged c e marks o) (hpending : h.pending e.ticket = [])
    (hresults : h.results e.ticket = []) :
    CallAt c e gone (marks ++ [.ended e (.ok o) (examine h .softReset)])
      (conclude h e (.ok o)) := by
  have hreported : recovery? h e o = none →
      (conclude h e (.ok o)).pending e.ticket = []
        ∧ (conclude h e (.ok o)).results e.ticket = [.ok o] := by
    intro hnone
    rw [conclude_of_no_recovery he hnone]
    refine ⟨hpending, ?_⟩
    rw [Host.results_finished, hresults]
    rfl
  -- whether a Soft Reset is wanted, and whether it can be sent
  by_cases hwanted : c.WantsReset e o
  · rcases examine_softReset h with ⟨error, herror, hcases⟩ | ⟨flow, hexamined⟩
    · obtain ⟨hpending', hresults'⟩ := hreported (recovery?_eq_none (.inr ⟨error, herror⟩))
      rw [herror]
      exact .closed (.unrecoverable hsent hwanted hcases) hpending' hresults'
    · have hreset := recovery?_eq_some (hconfig.symm ▸ hwanted) hexamined
      rw [hexamined, conclude_of_recovery he hreset]
      -- it is the only errand of the call, at the end of the line
      refine .recovering rfl hsent hwanted (.nil c _) ?_ hresults
        (.inLine rfl (List.mem_append_right _ List.mem_cons_self))
      show (_ ++ (h.waiting ++ [_])).filter _ = _
      rw [← List.append_assoc, List.filter_append]
      show h.pending e.ticket ++ _ = _
      rw [hpending, List.filter_cons_of_pos (by simp [Errand.reset])]
      rfl
  · have hunwanted : ¬ h.config.WantsReset e o := hconfig.symm ▸ hwanted
    obtain ⟨hpending', hresults'⟩ := hreported (recovery?_eq_none (.inl hunwanted))
    exact .closed (.settled hsent hwanted) hpending' hresults'

/-- While the request's own exchange is in line or under way. -/
theorem after_of_sending (he : e.recovers = none) (hconfig : m.host.config = c)
    (hissued : e.ticket < m.host.nextTicket) {event : Event π} (hspares : event.Spares e.ticket)
    (hsent : Attempts c e marks) (hpending : m.host.pending e.ticket = [e])
    (hresults : m.host.results e.ticket = []) (hstage : Stage c e marks.length m.host) :
    CallAt c e gone (marks ++ m.marksOf e.ticket event) (m.after event).host := by
  cases hstage.goes hpending hconfig hissued hspares with
  | waits hmarks hstage hagrees =>
    rw [hmarks, List.append_nil]
    exact .sending hsent (hagrees.pending.trans hpending) (hagrees.results.trans hresults) hstage
  | transmits hmarks hstage hpending hsame =>
    rw [hmarks]
    refine .sending (hsent.concat hstage.le) hpending (hsame.trans hresults) ?_
    rw [List.length_append]
    exact hstage
  | ends o hcounts hmarks hafter hpending =>
    obtain ⟨hleft, houtbox, hexamined⟩ := m.host.left_eq
    rw [hmarks, hafter, ← hexamined]
    refine of_ended he (hleft.trans hconfig) ⟨hsent, hcounts⟩ hpending ?_
    exact (congrArg (List.filterMap _) houtbox).trans hresults

/-- While the Soft Reset is in line or under way. -/
theorem after_of_recovering (hconfig : m.host.config = c) (hissued : e.ticket < m.host.nextTicket)
    {event : Event π} (hspares : event.Spares e.ticket) {sent again : List CallMark}
    {o : Outcome} {flow : Flow} (hsent : Exchanged c e sent o) (hwanted : c.WantsReset e o)
    (hagain : Attempts c (e.reset flow o) again)
    (hpending : m.host.pending e.ticket = [e.reset flow o])
    (hresults : m.host.results e.ticket = [])
    (hstage : Stage c (e.reset flow o) again.length m.host) :
    CallAt c e gone (sent ++ .ended e (.ok o) (.ok (Request.softResetFrame, flow)) :: again
      ++ m.marksOf e.ticket event) (m.after event).host := by
  have hgoes : Stage.Goes c (e.reset flow o) again.length m event :=
    hstage.goes hpending hconfig hissued hspares
  cases hgoes with
  | waits hmarks hstage hagrees =>
    have hmarks : m.marksOf e.ticket event = [] := hmarks
    rw [hmarks, List.append_nil]
    exact .recovering rfl hsent hwanted hagain (hagrees.pending.trans hpending)
      (hagrees.results.trans hresults) hstage
  | transmits hmarks hstage hpending hsame =>
    have hmarks : m.marksOf e.ticket event
      = [.transmitted (e.reset flow o) (e.reset flow o).request] := hmarks
    rw [hmarks, List.append_assoc, List.cons_append]
    refine .recovering rfl hsent hwanted (hagain.concat hstage.le) hpending
      (hsame.trans hresults) ?_
    rw [List.length_append]
    exact hstage
  | ends o' hcounts hmarks hafter hpending =>
    obtain ⟨_, houtbox, _⟩ := m.host.left_eq
    have hmarks : m.marksOf e.ticket event
      = [.ended (e.reset flow o) (.ok o') (examine m.host .softReset)] := hmarks
    have hnone : m.host.left.results (e.reset flow o).ticket = [] :=
      (congrArg (List.filterMap _) houtbox).trans hresults
    rw [hmarks, hafter, conclude_of_recovers rfl]
    refine .closed (.recovered hsent hwanted ⟨hagain, hcounts⟩) hpending ?_
    refine (Host.results_finished _ (e.reset flow o).ticket _).trans ?_
    rw [hnone]
    rfl

/-- **What any event does to a call.** -/
theorem after (he : e.recovers = none) (hconfig : m.host.config = c)
    (hissued : e.ticket < m.host.nextTicket) (hc : CallAt c e gone marks m.host)
    (event : Event π) :
    CallAt c e (gone ∨ event = .abandon e.ticket) (marks ++ m.marksOf e.ticket event)
      (m.after event).host := by
  by_cases hpending : m.host.pending e.ticket = []
  · -- no step is left to take
    obtain ⟨hnone, hsame⟩ := Moment.settled_after hissued hpending event
    rw [Moment.marksOf_of_not_steps (Moment.not_steps_of_pending hpending event),
      List.append_nil]
    cases hc with
    | sending hsent hone _ _ =>
      rw [hpending] at hone
      cases hone
    | recovering hmarks hsent hwanted hagain hone _ _ =>
      rw [hpending] at hone
      cases hone
    | closed hcourse _ hresults => exact .closed hcourse hnone (hsame.trans hresults)
    | abandoned hgone hcourse _ hresults =>
      exact .abandoned (.inl hgone) hcourse hnone (hsame.trans hresults)
  by_cases hspares : event.Spares e.ticket
  · refine mono ?_ Or.inl
    cases hc with
    | sending hsent hpending hresults hstage =>
      exact after_of_sending he hconfig hissued hspares hsent hpending hresults hstage
    | recovering hmarks hsent hwanted hagain hpending hresults hstage =>
      rw [hmarks]
      exact after_of_recovering hconfig hissued hspares hsent hwanted hagain hpending hresults
        hstage
    | closed _ hnone _ => exact absurd hnone hpending
    | abandoned _ _ hnone _ => exact absurd hnone hpending
  · obtain rfl := Event.eq_abandon_of_not_spares hspares
    have hmarks : m.marksOf e.ticket (.abandon e.ticket) = [] := rfl
    have hnone := m.pending_abandon_self e.ticket
    rw [hmarks, List.append_nil]
    cases hc with
    | sending hsent _ hresults _ =>
      exact .abandoned (.inr rfl) (.sending hsent) hnone hresults
    | recovering hmarks hsent hwanted hagain _ hresults _ =>
      rw [hmarks]
      exact .abandoned (.inr rfl) (.recovering hsent hwanted hagain) hnone hresults
    | closed _ hnone _ => exact absurd hnone hpending
    | abandoned _ _ hnone _ => exact absurd hnone hpending

/-- **Where a call stands after a run.** -/
theorem run (he : e.recovers = none) (events : List (Event π)) (hconfig : m.host.config = c)
    (hissued : e.ticket < m.host.nextTicket) (hc : CallAt c e gone marks m.host) :
    CallAt c e (gone ∨ .abandon e.ticket ∈ events)
      (marks ++ m.notes (Moment.marksOf e.ticket) events) (m.run events).host := by
  -- by induction on the events; what has been noted and who is gone grow with them
  induction events generalizing m marks gone with
  | nil =>
    show CallAt c e _ (marks ++ []) m.host
    rw [List.append_nil]
    exact hc.mono .inl
  | cons event rest ih =>
    have hnext := ih ((m.config_after event).trans hconfig)
      (Nat.lt_of_lt_of_le hissued (m.nextTicket_le_after event)) (hc.after he hconfig hissued event)
    rw [List.append_assoc] at hnext
    refine hnext.mono ?_
    rintro ((hgone | heq) | hmem)
    · exact .inl hgone
    · exact .inr (heq ▸ List.mem_cons_self)
    · exact .inr (List.mem_cons_of_mem _ hmem)

/-- A caller that has a result has an outcome. -/
theorem exists_outcome {h : Host} (hc : CallAt c e gone marks h)
    (hresults : h.results e.ticket ≠ []) : ∃ o, h.results e.ticket = [.ok o] := by
  cases hc with
  | sending _ _ hnone _ => exact absurd hnone hresults
  | recovering _ _ _ _ _ hnone _ => exact absurd hnone hresults
  | closed hcourse _ heq =>
    rw [heq]
    exact hcourse.exists_outcome
  | abandoned _ _ _ hnone => exact absurd hnone hresults

end CallAt

/-! ## §4. Every caller gets its outcome -/

namespace Moment

variable {c : Config} {e : Errand} {marks : List CallMark} {m : Moment π}
  {schedule : Nat → Event π}

/-- Where a call stands along a schedule on which its caller stays. -/
theorem callAt_along (he : e.recovers = none) (hconfig : m.host.config = c)
    (hissued : e.ticket < m.host.nextTicket) (hc : CallAt c e False marks m.host)
    (hspares : ∀ n, (schedule n).Spares e.ticket) (n : Nat) :
    e.ticket < (m.along schedule n).host.nextTicket
      ∧ ∃ marks, CallAt c e False marks (m.along schedule n).host := by
  induction n with
  | zero => exact ⟨hissued, marks, hc⟩
  | succ n ih =>
    obtain ⟨hissued, marks, hc⟩ := ih
    have hnext := hc.after he ((m.config_along schedule n).trans hconfig) hissued (schedule n)
    refine ⟨Nat.lt_of_lt_of_le hissued (nextTicket_le_after _ _), _, hnext.mono ?_⟩
    rintro (hgone | heq)
    · exact hgone
    · have hstays := hspares n
      rw [heq] at hstays
      exact hstays rfl

section

variable (hm : m.Reachable) (hmax : m.host.config.maxRetries < 0xFFFFFFFF)
  (hspares : ∀ n, (schedule n).Spares e.ticket) (hfair : m.Fair schedule)

include hm hmax hspares hfair

/-- The end of a Soft Reset gives the caller a result. -/
theorem Fair.exists_results_of_recovers {failed : Outcome} (hrecovers : e.recovers = some failed)
    {n : Nat} (hpending : (m.along schedule n).host.pending e.ticket = [e]) :
    ∃ k, (m.along schedule k).host.results e.ticket ≠ [] := by
  obtain ⟨j, hlook, result, hmove⟩ := hfair.exists_ends hm hmax hspares hpending
  have hafter : m.along schedule (n + j + 1) = (m.along schedule (n + j)).after .look :=
    congrArg (m.along schedule (n + j)).after hlook
  have hended : ((m.along schedule (n + j)).after .look).host
      = conclude (m.along schedule (n + j)).host.left e result := (look_of_nextMove hmove).1
  refine ⟨n + j + 1, ?_⟩
  rw [hafter, hended, conclude_of_recovers hrecovers, Host.results_finished]
  exact List.append_ne_nil_of_right_ne_nil _ (List.cons_ne_nil _ _)

/-- **Every caller that stays gets an outcome**, as long as time goes on and
    callers go on taking steps. -/
theorem Fair.exists_outcome (he : e.recovers = none) (hissued : e.ticket < m.host.nextTicket)
    (hc : CallAt m.host.config e False marks m.host) :
    ∃ n o, (m.along schedule n).host.results e.ticket = [.ok o] := by
  have hat := callAt_along he rfl hissued hc hspares
  -- whatever result there is, it is the outcome of the request
  have hdone (hresults : ∃ n, (m.along schedule n).host.results e.ticket ≠ []) :
      ∃ n o, (m.along schedule n).host.results e.ticket = [.ok o] := by
    obtain ⟨n, hresults⟩ := hresults
    obtain ⟨_, _, hc⟩ := hat n
    exact ⟨n, hc.exists_outcome hresults⟩
  have hreset {n : Nat} {o : Outcome} {flow : Flow}
      (hpending : (m.along schedule n).host.pending e.ticket = [e.reset flow o]) :=
    hdone (Fair.exists_results_of_recovers (e := e.reset flow o) hm hmax hspares hfair rfl hpending)
  cases hc with
  | closed hcourse _ hresults =>
    obtain ⟨o, ho⟩ := hcourse.exists_outcome
    exact ⟨0, o, hresults.trans ho⟩
  | abandoned hgone _ _ _ => exact hgone.elim
  | recovering _ _ _ _ hpending _ _ => exact hreset (n := 0) hpending
  | sending _ hpending _ _ =>
    obtain ⟨j, hends⟩ := hfair.exists_ends (n := 0) hm hmax hspares hpending
    rw [Nat.zero_add] at hends
    obtain ⟨hlook, result, hmove⟩ := hends
    obtain ⟨hissued, marks, hc⟩ := hat j
    have hnext := hc.after he (m.config_along schedule j) hissued .look
    -- the end is noted, so the call has got beyond its own exchange
    rw [marksOf_look hmove] at hnext
    have hafter : m.along schedule (j + 1) = (m.along schedule j).after .look :=
      congrArg (m.along schedule j).after hlook
    rw [← hafter] at hnext
    cases hnext with
    | sending hsent _ _ _ =>
      have hended := hsent.same _ (List.mem_append_right _ List.mem_cons_self)
      cases hended
    | recovering _ _ _ _ hpending _ _ => exact hreset hpending
    | closed hcourse _ hresults =>
      obtain ⟨o, ho⟩ := hcourse.exists_outcome
      exact ⟨j + 1, o, hresults.trans ho⟩
    | abandoned hgone _ _ _ =>
      rcases hgone with hgone | heq
      · exact hgone.elim
      · cases heq

end

end Moment

/-! ## §5. Calls -/

namespace Moment

variable {m : Moment π}

/-- A call begins in line, with nothing sent. -/
theorem callAt_send {request : Request} {frame : DataFrame} {flow : Flow}
    (hunused : m.host.Unused m.host.nextTicket)
    (hexamined : examine m.host request = .ok (frame, flow)) :
    CallAt m.host.config ⟨m.host.nextTicket, frame, flow, none⟩ False []
      (m.after (.send request)).host := by
  have hnone : m.host.callers.filter (·.ticket = m.host.nextTicket) = [] := hunused.pending
  rw [send_of_ok hexamined]
  refine .sending (.nil _ _) ?_ hunused.results
    (.inLine rfl (List.mem_append_right _ List.mem_cons_self))
  show ((m.host.active.map Exchange.errand).toList ++ (m.host.waiting ++ [_])).filter _ = _
  rw [← List.append_assoc, List.filter_append]
  show m.host.callers.filter _ ++ _ = _
  rw [hnone, List.filter_cons_of_pos (by simp)]
  rfl

end Moment

/-- **A Soft Reset follows a failed request once**, if the settings want it,
    whatever the module does and whatever else happens in whatever order.  A
    call that is not refused at once keeps to its course: all of its request's
    transmissions, then the end of that exchange, and then the Soft Reset or
    its refusal where one is wanted, and nothing otherwise; the caller gets the
    outcome of its request.  It does get it, as long as time goes on and
    callers go on taking steps.  A caller that goes away leaves its call where
    it is. -/
theorem soft_reset_follows_once {m : Moment π} (hm : m.Reachable) (request : Request)
    (events : List (Event π)) :
    let ticket := m.host.nextTicket
    let called := m.after (.send request)
    let marks := called.notes (Moment.marksOf ticket) events
    let h := (called.run events).host
    (∀ error, examine m.host request = .error error →
      marks = [] ∧ h.pending ticket = [] ∧ h.results ticket = [.error error])
    ∧ (∀ frame flow, examine m.host request = .ok (frame, flow) →
      let e : Errand := ⟨ticket, frame, flow, none⟩
      (CallCourse m.host.config e marks (h.pending ticket) (h.results ticket)
        ∨ .abandon ticket ∈ events ∧ h.pending ticket = [] ∧ h.results ticket = []
          ∧ ∃ pending, CallCourse m.host.config e marks pending [])
      ∧ (m.host.config.maxRetries < 0xFFFFFFFF → ∀ schedule : Nat → Event π,
        (∀ n, (schedule n).Spares ticket) → called.Fair schedule →
          ∃ n o, (called.run ((List.range n).map schedule)).host.results ticket = [.ok o]))
    ∧ h.sent ticket = marks.filterMap CallMark.frame?
    ∧ (m.host.config.maxRetries < 0xFFFFFFFF →
      (h.sent ticket).length ≤ 2 * m.host.config.maxRetries.toNat) := by
  intro ticket called marks h
  have hunused := hm.unused (Nat.le_refl ticket)
  have hissued : ticket < called.host.nextTicket := by
    rw [Moment.nextTicket_send]
    exact Nat.lt_succ_self _
  have hrefused (error : HostError) (hexamined : examine m.host request = .error error) :
      marks = [] ∧ h.pending ticket = [] ∧ h.results ticket = [.error error] := by
    have hcalled := Moment.send_of_error hexamined
    have hpending : called.host.pending ticket = [] := by
      rw [hcalled]
      exact hunused.pending
    have hresults : called.host.results ticket = [.error error] := by
      rw [hcalled, Host.results_finished]
      exact congrArg (· ++ [.error error]) hunused.results
    obtain ⟨hmarks, hnone, hsame⟩ := Moment.settled_run hissued hpending events
    exact ⟨hmarks, hnone, hsame.trans hresults⟩
  have hcourse (frame : DataFrame) (flow : Flow)
      (hexamined : examine m.host request = .ok (frame, flow)) :=
    ((Moment.callAt_send hunused hexamined).run rfl events (m.config_after _) hissued).course
  have hsent : h.sent ticket = marks.filterMap CallMark.frame? := by
    have hnone : called.host.sent ticket = [] :=
      (m.sent_after ticket (.send request)).trans (by rw [hunused.sent]; rfl)
    exact (called.sent_run ticket events).trans (by rw [hnone]; rfl)
  refine ⟨hrefused, ?_, hsent, fun hmax => ?_⟩
  · intro frame flow hexamined
    refine ⟨?_, fun hmax schedule hspares hfair => ?_⟩
    · exact (hcourse frame flow hexamined).imp_right fun ⟨hgone, hrest⟩ =>
        ⟨hgone.resolve_left id, hrest⟩
    · have hconfig : called.host.config = m.host.config := m.config_after (.send request)
      have hat := Moment.callAt_send hunused hexamined
      rw [← hconfig] at hmax hat
      obtain ⟨n, o, hresults⟩ :=
        hfair.exists_outcome (hm.after _) hmax hspares rfl hissued hat
      rw [Moment.along_eq_run] at hresults
      exact ⟨n, o, hresults⟩
  · rw [hsent]
    cases hexamined : examine m.host request with
    | error error =>
      rw [(hrefused error hexamined).1]
      exact Nat.zero_le _
    | ok sendable =>
      rcases hcourse sendable.1 sendable.2 hexamined with hat | ⟨_, _, _, pending, hat⟩
      · exact hat.length_frames hmax
      · exact hat.length_frames hmax

/-- A caller that looks up after every timeout, from its first transmission on. -/
def Event.untilTimeouts (n : Nat) : List (Event π) :=
  .look :: (List.replicate n [.pass defaultTimeoutMs.toNat, .look]).flatten

/-- A module that never answers: three transmissions of the request and three
    of the Soft Reset, and the caller learns that its request has failed. -/
theorem soft_reset_follows_once_in_silence :
    let called := Moment.started.after (.send .getLibraryVersion)
    let marks := called.notes (Moment.marksOf 0) (Event.untilTimeouts 7)
    let h := (called.run (Event.untilTimeouts 7)).host
    let request : DataFrame := ⟨3, .request, 0x15, [], 0xE9⟩
    Moment.started.Reachable
      ∧ examine Moment.started.host .getLibraryVersion = .ok (request, .response)
      ∧ CallCourse .default ⟨0, request, .response, none⟩ marks [] [.ok ⟨.failed, 3, none, none⟩]
      ∧ h.results 0 = [.ok ⟨.failed, 3, none, none⟩]
      ∧ h.sent 0 = [request, request, request, Request.softResetFrame, Request.softResetFrame,
        Request.softResetFrame]
      ∧ h.sent 0 = marks.filterMap CallMark.frame?
      ∧ ∃ n o, (called.run ((List.range n).map Event.tick)).host.results 0 = [.ok o] := by
  intro called marks h request
  have hexamined : examine Moment.started.host .getLibraryVersion = .ok (request, .response) := rfl
  have hpending : h.pending 0 = [] := by decide
  have hresults : h.results 0 = [.ok ⟨.failed, 3, none, none⟩] := by decide
  have hframes : h.sent 0 = [request, request, request, Request.softResetFrame,
    Request.softResetFrame, Request.softResetFrame] := by decide
  obtain ⟨_, hcourse, hsent, _⟩ := soft_reset_follows_once Moment.reachable_started
    .getLibraryVersion (Event.untilTimeouts 7)
  obtain ⟨hstands, hreturns⟩ := hcourse request .response hexamined
  refine ⟨Moment.reachable_started, hexamined, ?_, hresults, hframes, hsent,
    hreturns (by decide) Event.tick (Event.spares_tick 0) (Moment.fair_tick _)⟩
  rcases hstands with hat | ⟨_, _, hnone, _⟩
  · rw [← hpending, ← hresults]
    exact hat
  · exact absurd (hresults.symm.trans hnone) (List.cons_ne_nil _ _)

end ZWaveHost
