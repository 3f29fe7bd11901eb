/-
  ZWaveHost.Proofs.Run.CallNotes — what is noted of the calls.

  A look of a caller is noted if a frame is handed to the link, or if an
  exchange ends.  The notes of a run are kept by ticket.

  Main facts: whoever takes no step leaves no note (`marksOf_of_not_steps`),
  and the frames that are noted are those that are handed to the link
  (`sent_run`).
-/
import ZWaveHost.Proofs.Run.Calls

namespace ZWaveHost

open Adapter

/-! ## §1. What is noted of calls -/

/-- What is noted of the calls. -/
inductive CallMark where
  /-- A frame is handed to the link for an errand. -/
  | transmitted (e : Errand) (frame : DataFrame)
  /-- An exchange has ended.  A Soft Reset that is attempted then is examined
      with this result. -/
  | ended (e : Errand) (result : Except HostError Outcome)
    (reset : Except HostError (DataFrame × Flow))

namespace CallMark

/-- The ticket of its call. -/
def ticket : CallMark → Nat
  | .transmitted e _ => e.ticket
  | .ended e _ _ => e.ticket

/-- The frame that is handed to the link. -/
def frame? : CallMark → Option DataFrame
  | .transmitted _ frame => some frame
  | .ended _ _ _ => none

end CallMark

/-- What is noted of a move. -/
def Move.callMarks (h : Host) (e : Errand) : Move → List CallMark
  | .rest => []
  | .transmit s => [.transmitted e s.request]
  | .finish result => [.ended e result (examine h .softReset)]

variable {π : Type} [Port π]

omit [Port π] in
/-- What is noted of an event. -/
def Moment.callMarks (m : Moment π) : Event π → List CallMark
  | .look =>
    match m.host.nextMove? m.now with
    | some (e, move) => move.callMarks m.host e
    | none => []
  | _ => []

/-- What is noted of an event for a ticket. -/
def Moment.marksOf (ticket : Nat) (m : Moment π) (event : Event π) : List CallMark :=
  (m.callMarks event).filter (·.ticket = ticket)

/-! ## §2. Who is noted -/

namespace Moment

variable {m : Moment π} {e : Errand} {ticket : Nat} {move : Move}

omit [Port π] in
theorem marksOf_of_not_steps {event : Event π} (hother : ¬ m.Steps ticket event) :
    m.marksOf ticket event = [] := by
  unfold marksOf callMarks
  cases event with
  | look =>
    dsimp only
    cases hmove : m.host.nextMove? m.now with
    | none => rfl
    | some next =>
      obtain ⟨e, move⟩ := next
      have hticket : e.ticket ≠ ticket := fun heq => hother ⟨rfl, e, move, hmove, heq⟩
      dsimp only
      rw [List.filter_eq_nil_iff]
      intro mark hmem
      cases move with
      | rest => cases hmem
      | transmit s =>
        obtain rfl := List.mem_singleton.mp hmem
        exact fun heq => hticket (of_decide_eq_true heq)
      | finish result =>
        obtain rfl := List.mem_singleton.mp hmem
        exact fun heq => hticket (of_decide_eq_true heq)
  | _ => rfl

omit [Port π] in
theorem steps_of_marksOf {event : Event π} (hmarks : m.marksOf ticket event ≠ []) :
    m.Steps ticket event := by
  by_contra hother
  exact hmarks (marksOf_of_not_steps hother)

omit [Port π] in
theorem marksOf_look (hmove : m.host.nextMove? m.now = some (e, move)) :
    m.marksOf e.ticket .look = move.callMarks m.host e := by
  unfold marksOf callMarks
  simp only [hmove]
  cases move with
  | rest => rfl
  | transmit s => exact List.filter_cons_of_pos (by simp [CallMark.ticket])
  | finish result => exact List.filter_cons_of_pos (by simp [CallMark.ticket])

/-- Nothing is noted of a caller without an errand. -/
theorem settled_run {ticket : Nat} (hissued : ticket < m.host.nextTicket)
    (hnone : m.host.pending ticket = []) (events : List (Event π)) :
    m.notes (marksOf ticket) events = [] ∧ (m.run events).host.pending ticket = []
      ∧ (m.run events).host.results ticket = m.host.results ticket := by
  -- by induction on the events; the caller stays without an errand
  induction events generalizing m with
  | nil => exact ⟨rfl, hnone, rfl⟩
  | cons event rest ih =>
    obtain ⟨hstill, hsame⟩ := settled_after hissued hnone event
    have hissued := Nat.lt_of_lt_of_le hissued (m.nextTicket_le_after event)
    obtain ⟨hmarks, hpending, hresults⟩ := ih hissued hstill
    refine ⟨?_, hpending, hresults.trans hsame⟩
    show m.marksOf ticket event ++ (m.after event).notes (marksOf ticket) rest = []
    rw [hmarks, marksOf_of_not_steps (not_steps_of_pending hnone event)]
    rfl

/-- **A call that is refused** has its error for a result, and that is all there
    ever is of it. -/
theorem refused_run (hunused : m.host.Unused m.host.nextTicket) {request : Request}
    {error : HostError} (hexamined : examine m.host request = .error error)
    (events : List (Event π)) :
    let called := m.after (.send request)
    called.notes (marksOf m.host.nextTicket) events = []
      ∧ (called.run events).host.pending m.host.nextTicket = []
      ∧ (called.run events).host.results m.host.nextTicket = [.error error] := by
  intro called
  have hcalled := send_of_error hexamined
  have hpending : called.host.pending m.host.nextTicket = [] := by
    rw [hcalled]
    exact hunused.pending
  have hresults : called.host.results m.host.nextTicket = [.error error] := by
    rw [hcalled, Host.results_finished]
    exact congrArg (· ++ [.error error]) hunused.results
  obtain ⟨hmarks, hnone, hsame⟩ := settled_run (m.issued_send request) hpending events
  exact ⟨hmarks, hnone, hsame.trans hresults⟩

end Moment

/-! ## §3. What is handed to the link -/

theorem conclude_sent (h : Host) (e : Errand) (result : Except HostError Outcome) (ticket : Nat) :
    (conclude h e result).sent ticket = h.sent ticket := by
  have hquiet (t : Nat) (result : Except HostError Outcome) :
      (h.report (.finished t result)).sent ticket = h.sent ticket :=
    (h.sent_report _ ticket).trans (List.append_nil _)
  unfold conclude
  split
  · exact hquiet _ _
  · exact hquiet _ _
  · split
    · rfl
    · exact hquiet _ _

namespace Moment

/-- **The frames that are noted** are those that are handed to the link. -/
theorem sent_after (m : Moment π) (ticket : Nat) (event : Event π) :
    (m.after event).host.sent ticket
      = m.host.sent ticket ++ (m.marksOf ticket event).filterMap CallMark.frame? := by
  by_cases hsteps : m.Steps ticket event
  · obtain ⟨rfl, e, move, hmove, rfl⟩ := hsteps
    obtain ⟨_, _, hmover⟩ := m.host.mover_eq
    have hsame : m.host.mover.sent e.ticket = m.host.sent e.ticket :=
      congrArg (List.filterMap _) (by rw [hmover])
    rw [marksOf_look hmove, (look_of_nextMove hmove).1, ← hsame]
    cases move with
    | rest => exact (List.append_nil _).symm
    | transmit s =>
      have hself : (Report.transmitted e.ticket s.request).sent? e.ticket = some s.request :=
        if_pos rfl
      refine (Host.sent_report _ _ _).trans ?_
      rw [hself]
      rfl
    | finish result => exact (conclude_sent _ e result _).trans (List.append_nil _).symm
  · -- whatever else happens, nothing is handed over for this ticket
    rw [marksOf_of_not_steps hsteps]
    refine Eq.trans ?_ (List.append_nil _).symm
    by_cases hmoves : event.MovesCalls
    · cases event with
      | look =>
        have hspares : (Event.look : Event π).Spares ticket := trivial
        exact (agreesOn_after hspares nofun hsteps).sent
      | send request =>
        cases hexamined : examine m.host request with
        | error error =>
          rw [send_of_error hexamined]
          exact (Host.sent_report _ _ ticket).trans (List.append_nil _)
        | ok sendable => rw [send_of_ok hexamined]; rfl
      | abandon t => rfl
      | _ => exact hmoves.elim
    · exact ((m.sameCalls_after hmoves).agreesOn ticket).sent

theorem sent_run (m : Moment π) (ticket : Nat) (events : List (Event π)) :
    (m.run events).host.sent ticket
      = m.host.sent ticket ++ (m.notes (marksOf ticket) events).filterMap CallMark.frame? := by
  have hstep (log : List CallMark) (m' : Moment π) (event : Event π)
      (ih : m'.host.sent ticket = m.host.sent ticket ++ log.filterMap CallMark.frame?) :
      (m'.after event).host.sent ticket
        = m.host.sent ticket ++ (log ++ m'.marksOf ticket event).filterMap CallMark.frame? := by
    rw [sent_after, ih, List.filterMap_append, List.append_assoc]
  have hbase : m.host.sent ticket = m.host.sent ticket ++ [].filterMap CallMark.frame? :=
    (List.append_nil _).symm
  exact run_induction hstep events hbase

end Moment

end ZWaveHost
