/-
  ZWaveHost.Proofs.Exchange.Retransmission — when a request is sent once more.

  Main fact: a caller sends its request once more for one of three reasons,
  each switched by a setting of its own; and once the module has answered,
  with an ACK or a response, only a timeout of the response is left as a
  reason (`retransmission_has_reason`).
-/
import ZWaveHost.Proofs.Exchange.Course

namespace ZWaveHost

variable {π : Type} [Port π]

/-- **A request is sent once more only for a reason**: its ACK is late, its
    response or callback is late, or the module has rejected it, and the
    settings say so.  Where they do not for a late response or callback,
    nothing at all sends a request again once its ACK or its response has
    been taken. -/
theorem retransmission_has_reason {e : Errand} {rest : List Errand} {m₀ m : Moment π}
    {log : List Happening} {event : Event π} (hactive : m₀.host.active = none)
    (hwaiting : m₀.host.waiting = e :: rest) (run : ExchangeRun e m₀ log m)
    (hturn : m.host.active.isSome = true) (hspares : event.Spares e.ticket) :
    ((m.after event).host.transmissions ≠ m.host.transmissions →
      event = .look
        ∧ (m.after event).host.transmissions = m.host.transmissions ++ [(e.ticket, e.request)]
        ∧ ∃ s, m.host.inFlight = some s ∧ Renewal m₀.host.config log m.now s)
    ∧ (m₀.host.config.retryOnResponseTimeout = false → (∃ frame, .heard frame true ∈ log) →
      (m.after event).host.transmissions = m.host.transmissions) := by
  rcases run.course hactive hwaiting with ⟨x, s, hu⟩ | ⟨before, o, _, hend⟩
  · cases hu.continues hspares with
    | waits t ht htimes _ =>
      have hsame : (m.after event).host.transmissions = m.host.transmissions := by
        rw [ht.transmissions, htimes, hu.transmissions]
      exact ⟨fun hne => absurd hsame hne, fun _ _ => hsame⟩
    | transmits x' t hlook ht htimes hrenewal =>
      have hmore : (m.after event).host.transmissions
          = m.host.transmissions ++ [(e.ticket, e.request)] := by
        rw [ht.transmissions, htimes, hu.transmissions, List.length_append,
          List.length_singleton, List.replicate_succ', List.append_assoc]
      constructor
      · intro _
        exact ⟨hlook, hmore, s, hu.inFlight, hrenewal⟩
      · intro hoff htaken
        rw [hu.flag_of_taken hrenewal htaken] at hoff
        cases hoff
    | ends o _ _ hend =>
      have hsame : (m.after event).host.transmissions = m.host.transmissions := by
        rw [hend.transmissions, hu.transmissions]
      exact ⟨fun hne => absurd hsame hne, fun _ _ => hsame⟩
  · rw [hend.active_eq] at hturn
    cases hturn

/-- Thirty seconds after the transmission of two bytes to node 5. -/
def Moment.afterSilence : Moment ScriptedPort :=
  (Moment.toNodeFive.after .look).after (.pass 30000)

/-- After thirty seconds of silence the two bytes are sent once more. -/
theorem retransmission_after_silence :
    Moment.toNodeFive.host.active = none
      ∧ Moment.toNodeFive.host.waiting = [.toNodeFive]
      ∧ ExchangeRun .toNodeFive .toNodeFive
        [.transmitted 0 .toNodeFive Errand.toNodeFive.request] .afterSilence
      ∧ Moment.afterSilence.host.active.isSome = true
      ∧ Event.Spares 0 (.look : Event ScriptedPort)
      ∧ (Moment.afterSilence.after .look).host.transmissions
        = Moment.afterSilence.host.transmissions ++ [(0, Errand.toNodeFive.request)]
      ∧ ∃ s, Moment.afterSilence.host.inFlight = some s
        ∧ Renewal .default [.transmitted 0 .toNodeFive Errand.toNodeFive.request] 30000 s := by
  have run : ExchangeRun .toNodeFive .toNodeFive
      [.transmitted 0 .toNodeFive Errand.toNodeFive.request] .afterSilence :=
    .next .begin (by decide) (.pass 30000) trivial
  have hturn : Moment.afterSilence.host.active.isSome = true := by decide
  have hmore : (Moment.afterSilence.after .look).host.transmissions
      ≠ Moment.afterSilence.host.transmissions := by decide
  have hspares : Event.Spares 0 (.look : Event ScriptedPort) := trivial
  have hreason := (retransmission_has_reason rfl rfl run hturn hspares).1 hmore
  exact ⟨rfl, rfl, run, hturn, hspares, hreason.2⟩

end ZWaveHost
