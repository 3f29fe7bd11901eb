/-
  ZWaveHost.Proofs.Exchange.Admission — which calls are refused, and what
  becomes of them.

  A call is looked at before it takes its place in line: first its payload,
  then the adapter, then the registry.  The one error that a call could meet
  later, that the request in flight is gone when its turn ends, is met by
  none: only the caller whose turn it is takes a request out of flight.

  Main facts: a call is refused with the first error there is
  (`examine_eq_error_iff`), and a turn never ends with an error
  (`Moment.Reachable.finish_ok`).

  Main statement: `call_fails_iff_refused`.
-/
import ZWaveHost.Proofs.Exchange.Recovery

namespace ZWaveHost

open Adapter

/-! ## §1. Refusals -/

/-- **Why a call is refused**, the first reason first. -/
inductive Host.Refuses (h : Host) (request : Request) : HostError → Prop
  /-- The payload does not fit into a frame. -/
  | tooLarge (hsize : maxPayloadLength < request.payload.length) :
    Refuses h request (.frame (.payloadTooLarge request.payload.length maxPayloadLength))
  | stopped (hsize : request.payload.length ≤ maxPayloadLength) (hstopped : h.running = false) :
    Refuses h request .notRunning
  | unregistered (hsize : request.payload.length ≤ maxPayloadLength) (hruns : h.running = true)
    (hnone : h.registry.find? request.commandId = none) :
    Refuses h request (.unregisteredCommand request.commandId)

example : maxPayloadLength = 61 := rfl

section

variable {h : Host} {request : Request} {error : HostError}

theorem Host.Refuses.examine_eq (hrefuses : h.Refuses request error) :
    examine h request = .error error := by
  unfold examine
  cases hrefuses with
  | tooLarge hsize => rw [Request.toFrame_of_tooLarge hsize]
  | stopped hsize hstopped =>
    obtain ⟨frame, hframe, _⟩ := Request.exists_toFrame hsize
    rw [hframe, hstopped]
    rfl
  | unregistered hsize hruns hnone =>
    obtain ⟨frame, hframe, hid⟩ := Request.exists_toFrame hsize
    rw [hframe, hruns]
    dsimp only
    rw [hid, hnone]
    rfl

theorem Host.refuses_of_examine (hexamined : examine h request = .error error) :
    h.Refuses request error := by
  -- whichever reason comes first, its error is the one that was found
  have hfirst {reason : HostError} (hreason : h.Refuses request reason) :
      h.Refuses request error := by
    rw [hreason.examine_eq] at hexamined
    cases hexamined
    exact hreason
  by_cases hsize : maxPayloadLength < request.payload.length
  · exact hfirst (.tooLarge hsize)
  have hfits : request.payload.length ≤ maxPayloadLength := Nat.not_lt.mp hsize
  cases hruns : h.running with
  | false => exact hfirst (.stopped hfits hruns)
  | true =>
    cases hentry : h.registry.find? request.commandId with
    | none => exact hfirst (.unregistered hfits hruns hentry)
    | some entry =>
      obtain ⟨frame, hframe, hid⟩ := Request.exists_toFrame hfits
      unfold examine at hexamined
      rw [hframe, hruns] at hexamined
      dsimp only at hexamined
      rw [hid, hentry] at hexamined
      cases hexamined

/-- **A call is refused exactly if there is a reason**, with the error of the
    first one. -/
theorem examine_eq_error_iff : examine h request = .error error ↔ h.Refuses request error :=
  ⟨Host.refuses_of_examine, Host.Refuses.examine_eq⟩

end

variable {π : Type} [Port π]

namespace Moment

variable {m : Moment π}

/-- A call that is refused leaves nothing but its ticket and its result. -/
theorem send_of_refused {request : Request} {error : HostError}
    (hrefuses : m.host.Refuses request error) :
    m.after (.send request)
      = m.withHost ({ m.host with nextTicket := m.host.nextTicket + 1 }.report
          (.finished m.host.nextTicket (.error error))) := by
  show ({ m with adapter := (m.adapter.send request).2 } : Moment π) = _
  unfold Adapter.send
  rw [show examine m.adapter.host request = .error error from examine_eq_error_iff.mpr hrefuses]
  rfl

/-! ## §2. The request in flight -/

/-- **While a caller has its turn, its request is in flight.** -/
theorem Reachable.exists_inFlight (hm : m.Reachable) {x : Exchange}
    (hactive : m.host.active = some x) :
    ∃ s, m.host.inFlight = some s ∧ s.request = x.errand.request := by
  obtain ⟨h₀, log, s, hu⟩ := hm.underway hactive
  exact ⟨s, hu.inFlight, hu.follows.request⟩

end Moment

theorem Sequence.exists_ok_of_attemptMove {s : Sequence} {result : Except HostError Outcome}
    (hmove : s.attemptMove = .finish result) : ∃ o, result = .ok o := by
  unfold Sequence.attemptMove at hmove
  split at hmove
  · cases hmove
    exact ⟨_, rfl⟩
  · cases hstart : s.start with
    | error fault =>
      rw [hstart] at hmove
      cases hmove
      exact ⟨_, rfl⟩
    | ok t =>
      rw [hstart] at hmove
      cases hmove

/-- **A turn ends with an outcome**, never with an error. -/
theorem Moment.Reachable.finish_ok {m : Moment π} (hm : m.Reachable) {e : Errand}
    {result : Except HostError Outcome}
    (hmove : m.host.nextMove? m.now = some (e, .finish result)) : ∃ o, result = .ok o := by
  -- the one who leaves has had its turn, with its request in flight, or it is just beginning
  cases hactive : m.host.active with
  | some x =>
    obtain ⟨rfl, hnext⟩ := Host.nextMove?_of_active hactive hmove
    obtain ⟨s, hs, _⟩ := hm.exists_inFlight hactive
    rcases Host.move_cases m.now x hs with hfinish | ⟨hagain, -⟩ | ⟨hrest, -⟩
    · rw [hfinish] at hnext
      cases hnext
      exact ⟨_, rfl⟩
    · rw [hagain] at hnext
      exact Sequence.exists_ok_of_attemptMove hnext.symm
    · rw [hrest] at hnext
      cases hnext
  | none =>
    unfold Host.nextMove? at hmove
    cases hwaiting : m.host.waiting with
    | nil =>
      simp only [hactive, hwaiting] at hmove
      cases hmove
    | cons first rest =>
      simp only [hactive, hwaiting, Option.some.injEq, Prod.mk.injEq] at hmove
      exact Sequence.exists_ok_of_attemptMove hmove.2

/-! ## §3. All calls -/

/-- **A call fails exactly if it is refused**, and then it has made no
    difference but its result: nothing is written for it, nothing is counted,
    and nothing follows it.  Every other call gets an outcome, as long as its
    caller stays, time goes on and callers go on taking steps; and no turn ends
    with an error, since the request in flight is there to its end. -/
theorem call_fails_iff_refused {m : Moment π} (hm : m.Reachable) (request : Request)
    (events : List (Event π)) :
    let ticket := m.host.nextTicket
    let called := m.after (.send request)
    let last := called.run events
    (∀ error, .error error ∈ last.host.results ticket ↔ m.host.Refuses request error)
    ∧ (∀ error, m.host.Refuses request error →
        called = m.withHost ({ m.host with nextTicket := ticket + 1 }.report
          (.finished ticket (.error error)))
        ∧ last.host.results ticket = [.error error]
        ∧ last.host.pending ticket = [] ∧ last.host.sent ticket = [])
    ∧ ((∀ error, ¬ m.host.Refuses request error) → m.host.config.maxRetries < 0xFFFFFFFF →
        ∀ schedule : Nat → Event π, (∀ n, (schedule n).Spares ticket) → called.Fair schedule →
          ∃ n o, (called.run ((List.range n).map schedule)).host.results ticket = [.ok o])
    ∧ (∀ x, last.host.active = some x →
        ∃ s, last.host.inFlight = some s ∧ s.request = x.errand.request)
    ∧ (∀ e result, last.host.nextMove? last.now = some (e, .finish result) →
        ∃ o, result = .ok o) := by
  intro ticket called last
  have hunused : m.host.Unused ticket := hm.unused_next
  have hlast : last.Reachable := (hm.after (.send request)).run events
  have hrefused (error : HostError) (hrefuses : m.host.Refuses request error) :=
    Moment.refused_run hunused (examine_eq_error_iff.mpr hrefuses) events
  refine ⟨?_, ?_, ?_, fun x => hlast.exists_inFlight, fun e result => hlast.finish_ok⟩
  · intro error
    constructor
    · intro hmem
      cases hexamined : examine m.host request with
      | error other =>
        have hrefuses := examine_eq_error_iff.mp hexamined
        rw [(hrefused other hrefuses).2.2] at hmem
        cases List.mem_singleton.mp hmem
        exact hrefuses
      | ok sendable =>
        -- a call that has taken its place in line gets outcomes only
        have hat := (Moment.callAt_send hunused hexamined).run rfl events (m.config_after _)
          (m.issued_send request)
        obtain ⟨o, ho⟩ := hat.exists_outcome (List.ne_nil_of_mem hmem)
        rw [show last.host.results ticket = [.ok o] from ho] at hmem
        cases List.mem_singleton.mp hmem
    · intro hrefuses
      rw [(hrefused error hrefuses).2.2]
      exact List.mem_singleton_self _
  · intro error hrefuses
    obtain ⟨hmarks, hpending, hresults⟩ := hrefused error hrefuses
    refine ⟨Moment.send_of_refused hrefuses, hresults, hpending, ?_⟩
    have hnone : called.host.sent ticket = [] :=
      (m.sent_after ticket (.send request)).trans (by rw [hunused.sent]; rfl)
    rw [show last.host.sent ticket = _ from called.sent_run ticket events, hnone, hmarks]
    rfl
  · intro hnone hmax schedule hspares hfair
    cases hexamined : examine m.host request with
    | error error => exact absurd (examine_eq_error_iff.mp hexamined) (hnone error)
    | ok sendable =>
      have hconfig : called.host.config = m.host.config := m.config_after (.send request)
      have hat := Moment.callAt_send hunused hexamined
      rw [← hconfig] at hmax hat
      obtain ⟨n, o, hresults⟩ :=
        hfair.exists_outcome (hm.after _) hmax hspares rfl (m.issued_send request) hat
      rw [Moment.along_eq_run] at hresults
      exact ⟨n, o, hresults⟩

/-- A request of an unknown command with 62 bytes. -/
def Request.oversized : Request := .raw 0xAA (List.replicate 62 0)

/-- An adapter that has not been started refuses a payload that is too large for
    just that, though there are two more reasons; once it is started, a request
    that fits gets its outcome, even from a module that never answers. -/
theorem call_fails_for_first_reason :
    let idle : Moment ScriptedPort := .new 0 {} .default Config.valid_default .standard
    let last := (idle.after (.send .oversized)).run (Event.untilTimeouts 1)
    let called := Moment.started.after (.send .getLibraryVersion)
    idle.Reachable ∧ Moment.started.Reachable
    ∧ idle.host.running = false ∧ idle.host.registry.find? Request.oversized.commandId = none
    ∧ .error (.frame (.payloadTooLarge 62 61)) ∈ last.host.results 0
    ∧ last.host.sent 0 = []
    ∧ (∀ error, ¬ Moment.started.host.Refuses .getLibraryVersion error)
    ∧ ∃ n o, (called.run ((List.range n).map Event.tick)).host.results 0 = [.ok o] := by
  intro idle last called
  have hidle : idle.Reachable := ⟨0, {}, .default, Config.valid_default, .standard, [], rfl⟩
  have hrefuses : idle.host.Refuses .oversized (.frame (.payloadTooLarge 62 61)) :=
    .tooLarge (by decide)
  have haccepts (error : HostError) :
      ¬ Moment.started.host.Refuses .getLibraryVersion error := by
    intro hrefuses
    cases hrefuses with
    | tooLarge hsize => exact absurd hsize (by decide)
    | stopped _ hstopped => cases hstopped
    | unregistered _ _ hnone => cases hnone
  obtain ⟨hfails, hnothing, _⟩ := call_fails_iff_refused hidle .oversized (Event.untilTimeouts 1)
  obtain ⟨_, _, hreturns, _⟩ :=
    call_fails_iff_refused Moment.reachable_started .getLibraryVersion []
  exact ⟨hidle, Moment.reachable_started, rfl, rfl, (hfails _).mpr hrefuses,
    (hnothing _ hrefuses).2.2.2, haccepts,
    hreturns haccepts (by decide) Event.tick (Event.spares_tick 0) (Moment.fair_tick _)⟩

end ZWaveHost
