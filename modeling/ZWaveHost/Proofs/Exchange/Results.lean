/-
  ZWaveHost.Proofs.Exchange.Results — where a result comes from.

  A caller that gets an outcome has made a call that was not refused, and the
  outcome is that of the call's own exchange, whether or not a Soft Reset
  followed.

  Main fact: what has been noted of such a call is the transmissions of its
  request, then the end of its exchange with this very outcome
  (`exchanged_of_result`).
-/
import ZWaveHost.Proofs.Exchange.Recovery

namespace ZWaveHost

open Adapter

variable {π : Type} [Port π]

/-- An outcome is that of the request's own exchange.  Something follows it
    only if a Soft Reset is wanted. -/
theorem CallCourse.exists_ended {c : Config} {e : Errand} {marks : List CallMark}
    {pending : List Errand} {results : List (Except HostError Outcome)} {o : Outcome}
    (hc : CallCourse c e marks pending results) (hresult : .ok o ∈ results) :
    ∃ sent reset more, Exchanged c e sent o ∧ marks = sent ++ .ended e (.ok o) reset :: more
      ∧ (¬ c.WantsReset e o → more = []) := by
  cases hc with
  | sending hsent => cases hresult
  | @settled sent o' reset hsent hunwanted =>
    cases List.mem_singleton.mp hresult
    exact ⟨sent, reset, [], hsent, rfl, fun _ => rfl⟩
  | @unrecoverable sent o' error hsent hwanted herror =>
    cases List.mem_singleton.mp hresult
    exact ⟨sent, _, [], hsent, rfl, fun _ => rfl⟩
  | recovering hsent hwanted hagain => cases hresult
  | @recovered sent again o' last flow reset hsent hwanted hagain =>
    cases List.mem_singleton.mp hresult
    refine ⟨sent, .ok (Request.softResetFrame, flow),
      again ++ [.ended (e.reset flow o) (.ok last) reset], hsent, ?_,
      fun hunwanted => absurd hwanted hunwanted⟩
    rw [List.append_assoc, List.cons_append]

/-- An exchange that has ended has had a transmission, and only its own. -/
theorem Exchanged.exists_cons {c : Config} {e : Errand} {sent : List CallMark} {o : Outcome}
    (hsent : Exchanged c e sent o) :
    ∃ again, sent = .transmitted e e.request :: again
      ∧ ∀ mark ∈ again, mark = .transmitted e e.request := by
  have hpos := hsent.counts.pos
  cases sent with
  | nil => cases hpos
  | cons first again =>
    rw [hsent.same first List.mem_cons_self]
    exact ⟨again, rfl, fun mark hmem => hsent.same mark (List.mem_cons_of_mem _ hmem)⟩

namespace Moment

/-- **A caller that gets an outcome** has made a call that was not refused, and
    the outcome is that of its exchange. -/
theorem exchanged_of_result {m : Moment π} (hm : m.Reachable) {request : Request}
    {events : List (Event π)} {o : Outcome}
    (hresult : .ok o ∈ ((m.after (.send request)).run events).host.results m.host.nextTicket) :
    ∃ frame flow, examine m.host request = .ok (frame, flow)
      ∧ ∃ sent reset more, let e : Errand := ⟨m.host.nextTicket, frame, flow, none⟩
        Exchanged m.host.config e sent o
        ∧ (m.after (.send request)).notes (marksOf m.host.nextTicket) events
          = sent ++ .ended e (.ok o) reset :: more
        ∧ (¬ m.host.config.WantsReset e o → more = []) := by
  have hunused := hm.unused_next
  have hissued := m.issued_send request
  cases hexamined : examine m.host request with
  | error error =>
    -- a call that is refused gets no outcome
    rw [(refused_run hunused hexamined events).2.2] at hresult
    cases List.mem_singleton.mp hresult
  | ok sendable =>
    obtain ⟨frame, flow⟩ := sendable
    refine ⟨frame, flow, rfl, ?_⟩
    have hat := (callAt_send hunused hexamined).run rfl events (m.config_after _) hissued
    rcases hat.course with hcourse | ⟨_, _, hnone, _⟩
    · exact hcourse.exists_ended hresult
    · rw [hnone] at hresult
      cases hresult

end Moment

end ZWaveHost
