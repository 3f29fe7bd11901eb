/-
  ZWaveHost.Proofs.Exchange.Progress — every exchange gets its turn, and ends.

  A caller in line waits for those before it.  Each of them waits for an
  answer only so long, sends its request only so often, and then leaves; newly
  made calls and Soft Resets line up behind.  So there is a bound on what is
  still to come before an exchange ends (`Host.toGo`), and every look at a
  late enough time lowers it.

  Main facts: whoever has the turn has an exchange under way
  (`Reachable.underway`), and an exchange in line comes to its end
  (`Fair.exists_ends`), as long as time goes on and callers go on taking steps.
-/
import ZWaveHost.Proofs.Exchange.Ending
import ZWaveHost.Proofs.Exchange.Stage

namespace ZWaveHost

open Adapter

variable {π : Type} [Port π]

/-! ## §1. Whose turn it is -/

namespace Moment

/-- A turn begins with a look. -/
theorem active_of_none {m : Moment π} {event : Event π} (hnone : m.host.active = none)
    (hother : event ≠ .look) : (m.after event).host.active = none := by
  by_cases hmoves : event.MovesCalls
  · cases event with
    | look => exact absurd rfl hother
    | send request =>
      cases hexamined : examine m.host request with
      | error error => rw [send_of_error hexamined]; exact hnone
      | ok sendable => rw [send_of_ok hexamined]; exact hnone
    | abandon ticket =>
      show m.host.active.filter _ = none
      rw [hnone]
      rfl
    | _ => exact hmoves.elim
  · exact (m.sameCalls_after hmoves).active.trans hnone

/-- A caller whose turn it is and that goes away ends its turn. -/
theorem active_abandon {m : Moment π} {x : Exchange} (hactive : m.host.active = some x) :
    (m.after (.abandon x.errand.ticket)).host.active = none := by
  show m.host.active.filter _ = none
  rw [hactive]
  exact if_neg (by simp)

/-- **Whoever has the turn** has an exchange under way. -/
theorem Reachable.underway {m : Moment π} (hm : m.Reachable) {x : Exchange}
    (hactive : m.host.active = some x) : ∃ h₀ log s, Underway x.errand h₀ log m.host x s := by
  refine hm.induction (P := fun m => ∀ x, m.host.active = some x →
    ∃ h₀ log s, Underway x.errand h₀ log m.host x s) ?_ ?_ x hactive
  · intro now port config valid registry x hactive
    cases hactive
  -- the turn has just begun, or it is the one there was before the event
  intro m event ih x hactive
  cases hbefore : m.host.active with
  | none =>
    by_cases hlook : event = .look
    · subst hlook
      cases hwaiting : m.host.waiting with
      | nil =>
        have hnone : m.host.nextMove? m.now = none := by
          unfold Host.nextMove?
          simp only [hbefore, hwaiting]
        rw [(look_of_none hnone).1, hbefore] at hactive
        cases hactive
      | cons e rest =>
        obtain ⟨y, s, hu⟩ := Underway.begin hbefore hwaiting
        obtain rfl : y = x := Option.some.inj (hu.active.symm.trans hactive)
        obtain rfl := hu.errand
        exact ⟨_, _, s, hu⟩
    · rw [active_of_none hbefore hlook] at hactive
      cases hactive
  | some y =>
    by_cases hspares : event.Spares y.errand.ticket
    · obtain ⟨h₀, log, s, hu⟩ := ih y hbefore
      cases hu.continues hspares with
      | waits t ht _ _ =>
        obtain rfl : y = x := Option.some.inj (ht.active.symm.trans hactive)
        exact ⟨h₀, _, t, ht⟩
      | transmits y' t _ ht _ _ =>
        obtain rfl : y' = x := Option.some.inj (ht.active.symm.trans hactive)
        rw [ht.errand]
        exact ⟨h₀, _, t, ht⟩
      | ends o _ _ hend =>
        rw [hend.active_eq] at hactive
        cases hactive
    · obtain rfl := Event.eq_abandon_of_not_spares hspares
      rw [active_abandon hbefore] at hactive
      cases hactive

end Moment

/-! ## §2. What is still to come -/

namespace Host

variable {ticket : Nat} {h h' : Host}

/-- How many callers are before the one with a ticket. -/
def place (ticket : Nat) (h : Host) : Nat := h.callers.findIdx (·.ticket = ticket)

/-- When the wait of the caller whose turn it is ends. -/
def due (h : Host) : Nat := (h.active.map Exchange.deadline).getD 0

/-- How many transmissions are left to the caller whose turn it is; one more
    than there can be if nobody has the turn. -/
def chances (h : Host) : Nat :=
  match h.active with
  | none => h.config.maxRetries.toNat + 1
  | some _ => h.config.maxRetries.toNat - (h.inFlight.map fun s => s.attempt.toNat).getD 0

/-- A bound on the transmissions and turns that are still to come until the
    caller with a ticket has had its turn. -/
def toGo (ticket : Nat) (h : Host) : Nat :=
  h.place ticket * (h.config.maxRetries.toNat + 2) + h.chances

theorem chances_le (h : Host) : h.chances ≤ h.config.maxRetries.toNat + 1 := by
  unfold chances
  split <;> omega

theorem chances_of_none (hactive : h.active = none) :
    h.chances = h.config.maxRetries.toNat + 1 := by
  unfold chances
  rw [hactive]

theorem due_of_active {x : Exchange} (hactive : h.active = some x) : h.due = x.deadline := by
  unfold due
  rw [hactive]
  rfl

/-- A caller that moves up has less to go, whoever has the turn. -/
theorem toGo_lt_of_place (hconfig : h'.config = h.config)
    (hplace : h'.place ticket < h.place ticket) : h'.toGo ticket < h.toGo ticket := by
  -- a place counts for more than all the chances of a turn
  have hturn := Nat.mul_le_mul_right (h.config.maxRetries.toNat + 2) (Nat.succ_le_of_lt hplace)
  have hchances := h'.chances_le
  rw [Nat.succ_mul] at hturn
  unfold toGo
  rw [hconfig] at hchances ⊢
  omega

/-- So has one that keeps its place while a transmission is used up. -/
theorem toGo_lt_of_chances (hconfig : h'.config = h.config)
    (hplace : h'.place ticket ≤ h.place ticket) (hchances : h'.chances < h.chances) :
    h'.toGo ticket < h.toGo ticket := by
  have hturns := Nat.mul_le_mul_right (h.config.maxRetries.toNat + 2) hplace
  unfold toGo
  rw [hconfig]
  omega

end Host

/-- What is left over of a list has its first find no later. -/
theorem findIdx_filter_le {α : Type} {p q : α → Bool} (hkeeps : ∀ a, p a = true → q a = true)
    (l : List α) : (l.filter q).findIdx p ≤ l.findIdx p := by
  -- by induction on the list; its first find is kept, and what is before it may go
  induction l with
  | nil => exact Nat.le_refl _
  | cons a rest ih =>
    by_cases hp : p a = true
    · rw [List.filter_cons_of_pos (hkeeps a hp), List.findIdx_cons, hp]
      exact Nat.zero_le _
    · rw [List.findIdx_cons, Bool.eq_false_iff.mpr hp]
      by_cases hq : q a = true
      · rw [List.filter_cons_of_pos hq, List.findIdx_cons, Bool.eq_false_iff.mpr hp]
        exact Nat.succ_le_succ ih
      · rw [List.filter_cons_of_neg hq]
        exact Nat.le_succ_of_le ih

namespace Moment

variable {m : Moment π} {e : Errand}

/-- The exchange of an errand ends with an event. -/
def Ends (e : Errand) (m : Moment π) (event : Event π) : Prop :=
  event = .look ∧ ∃ result, m.host.nextMove? m.now = some (e, .finish result)

/-- What an event does to the only errand of a call. -/
inductive Approaches (e : Errand) (m : Moment π) (event : Event π) : Prop
  | ends (hends : m.Ends e event)
  | nearer (hpending : (m.after event).host.pending e.ticket = [e])
    (hlt : (m.after event).host.toGo e.ticket < m.host.toGo e.ticket)
  | waits (hpending : (m.after event).host.pending e.ticket = [e])
    (hsame : (m.after event).host.toGo e.ticket = m.host.toGo e.ticket)
    (hdue : (m.after event).host.due = m.host.due)
    (hearly : event = .look → m.now < m.host.due)

end Moment

/-! ## §3. What an event does to a call in line -/

namespace Host

variable {e : Errand} {h h' : Host}

theorem mem_callers_of_pending (hpending : h.pending e.ticket = [e]) : e ∈ h.callers := by
  have hmem : e ∈ h.pending e.ticket := hpending ▸ List.mem_singleton_self e
  exact (List.mem_filter.mp hmem).1

/-- Whoever lines up behind does not matter. -/
theorem findIdx_append {waiting : List Errand} (hmem : e ∈ waiting) (more : List Errand) :
    (waiting ++ more).findIdx (·.ticket = e.ticket) = waiting.findIdx (·.ticket = e.ticket) := by
  have hfound := List.findIdx_lt_length_of_exists (p := fun a : Errand => a.ticket = e.ticket)
    ⟨e, hmem, decide_eq_true rfl⟩
  rw [List.findIdx_append, if_pos hfound]

theorem place_of_append (hpending : h.pending e.ticket = [e]) {more : List Errand}
    (hcallers : h'.callers = h.callers ++ more) : h'.place e.ticket = h.place e.ticket := by
  unfold place
  rw [hcallers]
  exact findIdx_append (mem_callers_of_pending hpending) more

/-- One who leaves lets everybody move up. -/
theorem place_of_cons {first : Errand} {rest : List Errand} (hcallers : h.callers = first :: rest)
    {ticket : Nat} (hother : first.ticket ≠ ticket) :
    h.place ticket = rest.findIdx (·.ticket = ticket) + 1 := by
  unfold place
  rw [hcallers, List.findIdx_cons, decide_eq_false hother]
  rfl

end Host

theorem Underway.chances_eq {e : Errand} {h₀ h : Host} {log : List Happening} {x : Exchange}
    {s : Sequence} (hu : Underway e h₀ log h x s) (hmax : h₀.config.maxRetries < 0xFFFFFFFF) :
    h.chances = h₀.config.maxRetries.toNat - (transmissionTimes log).length := by
  unfold Host.chances
  rw [hu.active, hu.inFlight, hu.config, ← hu.counted hmax]
  rfl

namespace Moment

variable {m : Moment π} {e : Errand} {event : Event π}

/-- A caller that has lost no chance has moved up, or waits where it was. -/
theorem Approaches.of_place_le (hpending : (m.after event).host.pending e.ticket = [e])
    (hplace : (m.after event).host.place e.ticket ≤ m.host.place e.ticket)
    (hchances : (m.after event).host.chances = m.host.chances)
    (hdue : (m.after event).host.due = m.host.due)
    (hearly : event = .look → m.now < m.host.due) : Approaches e m event := by
  have hconfig := m.config_after event
  rcases Nat.lt_or_eq_of_le hplace with hless | hsame
  · exact .nearer hpending (Host.toGo_lt_of_place hconfig hless)
  · refine .waits hpending ?_ hdue hearly
    unfold Host.toGo
    rw [hconfig, hsame, hchances]

/-- Nobody gets in line before a caller. -/
theorem place_after_le (hpending : m.host.pending e.ticket = [e])
    (hspares : event.Spares e.ticket) (hother : event ≠ .look) :
    (m.after event).host.place e.ticket ≤ m.host.place e.ticket := by
  by_cases hmoves : event.MovesCalls
  · cases event with
    | look => exact absurd rfl hother
    | send request =>
      cases hexamined : examine m.host request with
      | error error => rw [send_of_error hexamined]; exact Nat.le_refl _
      | ok sendable =>
        rw [send_of_ok hexamined]
        exact Nat.le_of_eq (Host.place_of_append hpending (List.append_assoc _ _ _).symm)
    | abandon t =>
      have hother : t ≠ e.ticket := hspares
      unfold Host.place
      rw [callers_abandon]
      refine findIdx_filter_le ?_ _
      intro a ha
      have ha : a.ticket = e.ticket := of_decide_eq_true ha
      exact decide_eq_true (ha ▸ hother.symm)
    | _ => exact hmoves.elim
  · exact Nat.le_of_eq (congrArg (List.findIdx _) (m.sameCalls_after hmoves).callers)

/-- **Beside a look**, what can happen to a caller in line is that one before
    it goes away. -/
theorem approaches_of_not_look (hm : m.Reachable)
    (hmax : m.host.config.maxRetries < 0xFFFFFFFF) (hpending : m.host.pending e.ticket = [e])
    (hspares : event.Spares e.ticket) (hother : event ≠ .look) : Approaches e m event := by
  -- a call with an errand has been made
  have hissued : e.ticket < m.host.nextTicket := by
    refine Nat.lt_of_not_le fun hunissued => ?_
    rw [(hm.unused hunissued).pending] at hpending
    cases hpending
  have hstays : (m.after event).host.pending e.ticket = [e] :=
    (agreesOn_after hspares (fun _ _ => (Nat.ne_of_lt hissued).symm)
      fun hsteps => hother hsteps.1).pending.trans hpending
  have hplace := place_after_le hpending hspares hother
  have hearly (hlook : event = .look) : m.now < m.host.due := absurd hlook hother
  cases hactive : m.host.active with
  | none =>
    have hnone := active_of_none hactive hother
    refine .of_place_le hstays hplace ?_ ?_ hearly
    · rw [Host.chances_of_none hnone, Host.chances_of_none hactive, m.config_after event]
    · unfold Host.due
      rw [hnone, hactive]
  | some x =>
    obtain ⟨h₀, log, s, hu⟩ := hm.underway hactive
    rw [hu.config] at hmax
    by_cases hstill : event.Spares x.errand.ticket
    · cases hu.continues hstill with
      | waits t ht htimes _ =>
        refine .of_place_le hstays hplace ?_ ?_ hearly
        · rw [ht.chances_eq hmax, hu.chances_eq hmax, htimes]
        · rw [Host.due_of_active ht.active, Host.due_of_active hactive]
      | transmits _ _ hlook _ _ _ => exact absurd hlook hother
      | ends _ hlook _ _ => exact absurd hlook hother
    · -- the one whose turn it is goes away
      obtain rfl := Event.eq_abandon_of_not_spares hstill
      have hfirst : x.errand.ticket ≠ e.ticket := hspares
      have hcallers : m.host.callers = x.errand :: m.host.waiting := by
        unfold Host.callers
        rw [hactive]
        rfl
      refine .nearer hstays (Host.toGo_lt_of_place (m.config_after _) ?_)
      rw [Host.place_of_cons hcallers hfirst]
      unfold Host.place
      rw [callers_abandon, hcallers, List.filter_cons_of_neg (by simp)]
      refine Nat.lt_succ_of_le (findIdx_filter_le ?_ _)
      intro a ha
      have ha : a.ticket = e.ticket := of_decide_eq_true ha
      exact decide_eq_true (ha ▸ hfirst.symm)

/-- Those behind a caller that leaves move up, and a Soft Reset lines up
    behind them. -/
theorem callers_of_finish {e' : Errand} {result : Except HostError Outcome}
    (hmove : m.host.nextMove? m.now = some (e', .finish result)) :
    ∃ more, (m.after .look).host.callers = m.host.mover.waiting ++ more := by
  have hnone := active_of_finish hmove
  have hafter : (m.after .look).host = conclude m.host.left e' result :=
    (look_of_nextMove hmove).1
  unfold Host.callers
  rw [hnone, hafter]
  unfold conclude
  split
  · exact ⟨[], (List.append_nil _).symm⟩
  · exact ⟨[], (List.append_nil _).symm⟩
  · split
    · next reset _ => exact ⟨[reset], rfl⟩
    · exact ⟨[], (List.append_nil _).symm⟩

/-- If nobody takes a step, somebody waits and is not due. -/
theorem approaches_of_no_move (hpending : m.host.pending e.ticket = [e])
    (hnone : m.host.nextMove? m.now = none) : Approaches e m .look := by
  have hafter := (look_of_none hnone).1
  have hmem := Host.mem_callers_of_pending hpending
  unfold Host.nextMove? at hnone
  unfold Host.callers at hmem
  cases hactive : m.host.active with
  | none =>
    rw [hactive] at hnone hmem
    cases hwaiting : m.host.waiting with
    | nil =>
      rw [hwaiting] at hmem
      cases hmem
    | cons first rest =>
      rw [hwaiting] at hnone
      cases hnone
  | some x =>
    rw [hactive] at hnone
    have hready : isReady m.now m.host x = false := by
      by_contra hready
      rw [Bool.not_eq_false] at hready
      simp only [hready, if_true] at hnone
      cases hnone
    unfold isReady at hready
    rw [Bool.or_eq_false_iff, Bool.or_eq_false_iff, decide_eq_false_iff_not] at hready
    refine .waits ?_ ?_ ?_ fun _ => ?_
    · rw [hafter]
      exact hpending
    · rw [hafter]
    · rw [hafter]
    · rw [Host.due_of_active hactive]
      exact Nat.not_le.mp hready.1.2

/-- **A look** brings every caller nearer to its turn, unless it is early. -/
theorem approaches_look (hm : m.Reachable) (hmax : m.host.config.maxRetries < 0xFFFFFFFF)
    (hpending : m.host.pending e.ticket = [e]) : Approaches e m .look := by
  have hconfig := m.config_after .look
  cases hmove : m.host.nextMove? m.now with
  | none => exact approaches_of_no_move hpending hmove
  | some next =>
  obtain ⟨e', move⟩ := next
  by_cases hleaves : ∃ result, move = .finish result
  · obtain ⟨result, rfl⟩ := hleaves
    by_cases hticket : e'.ticket = e.ticket
    · obtain ⟨rfl, _⟩ := nextMove_of_pending hpending hmove hticket
      exact .ends ⟨rfl, result, hmove⟩
    · have hstays := (agreesOn_look hmove hticket).pending.trans hpending
      -- the first of the line has left it
      obtain ⟨more, hafter⟩ := callers_of_finish hmove
      have hcallers := Host.callers_of_nextMove hmove
      have hbehind : e ∈ m.host.mover.waiting := by
        have hmem := Host.mem_callers_of_pending hpending
        rw [hcallers] at hmem
        rcases List.mem_cons.mp hmem with rfl | hbehind
        · exact absurd rfl hticket
        · exact hbehind
      refine .nearer hstays (Host.toGo_lt_of_place hconfig ?_)
      rw [Host.place_of_cons hcallers hticket]
      unfold Host.place
      rw [hafter, Host.findIdx_append hbehind]
      exact Nat.lt_succ_self _
  · have hcallers := callers_of_stays hmove fun result heq => hleaves ⟨result, heq⟩
    have hstays : (m.after .look).host.pending e.ticket = [e] := by
      unfold Host.pending
      rw [hcallers]
      exact hpending
    have hplace : (m.after .look).host.place e.ticket ≤ m.host.place e.ticket :=
      Nat.le_of_eq (congrArg (List.findIdx _) hcallers)
    cases hactive : m.host.active with
    | none =>
      -- the first transmission of a turn
      have hwaiting := Host.callers_of_nextMove hmove
      unfold Host.callers at hwaiting
      rw [hactive] at hwaiting
      obtain ⟨x, s, hu⟩ := Underway.begin hactive hwaiting
      refine .nearer hstays (Host.toGo_lt_of_chances hconfig hplace ?_)
      rw [hu.chances_eq hmax, Host.chances_of_none hactive]
      omega
    | some x =>
      obtain ⟨h₀, log, s, hu⟩ := hm.underway hactive
      rw [hu.config] at hmax
      cases hu.continues_look with
      | waits t ht htimes hearly =>
        refine .of_place_le hstays hplace ?_ ?_ fun _ => ?_
        · rw [ht.chances_eq hmax, hu.chances_eq hmax, htimes]
        · rw [Host.due_of_active ht.active, Host.due_of_active hactive]
        · rw [Host.due_of_active hactive]
          exact hearly rfl
      | transmits x' t _ ht htimes _ =>
        -- there was a chance left, and it has been used
        have hbound := ht.length_le hmax
        refine .nearer hstays (Host.toGo_lt_of_chances hconfig hplace ?_)
        rw [htimes, List.length_append, List.length_singleton] at hbound
        rw [ht.chances_eq hmax, hu.chances_eq hmax, htimes, List.length_append,
          List.length_singleton]
        omega
      | ends o _ hended _ =>
        rw [(look_of_nextMove hmove).2] at hended
        cases move with
        | rest => cases hended
        | transmit s' => cases hended
        | finish result => exact absurd ⟨result, rfl⟩ hleaves

/-- **What any event does to the only errand of a call**, as long as its
    caller stays. -/
theorem approaches (hm : m.Reachable) (hmax : m.host.config.maxRetries < 0xFFFFFFFF)
    (hpending : m.host.pending e.ticket = [e]) (hspares : event.Spares e.ticket) :
    Approaches e m event := by
  by_cases hlook : event = .look
  · rw [hlook]
    exact approaches_look hm hmax hpending
  · exact approaches_of_not_look hm hmax hpending hspares hlook

end Moment

/-! ## §4. Every exchange ends -/

namespace Moment

variable {m : Moment π} {e : Errand} {schedule : Nat → Event π}

theorem Reachable.along (hm : m.Reachable) (schedule : Nat → Event π) (n : Nat) :
    (m.along schedule n).Reachable := by
  induction n with
  | zero => exact hm
  | succ n ih => exact ih.after (schedule n)

/-- The events of a schedule, up to a point, are a run. -/
theorem along_eq_run (m : Moment π) (schedule : Nat → Event π) (n : Nat) :
    m.along schedule n = m.run ((List.range n).map schedule) := by
  induction n with
  | zero => rfl
  | succ n ih =>
    rw [List.range_succ, List.map_append]
    unfold run at ih ⊢
    rw [List.foldl_append, ← ih]
    rfl

theorem config_along (m : Moment π) (schedule : Nat → Event π) (n : Nat) :
    (m.along schedule n).host.config = m.host.config := by
  induction n with
  | zero => rfl
  | succ n ih => exact (config_after _ _).trans ih

/-- The exchange of an errand ends at a point of a schedule or later. -/
def EndsFrom (e : Errand) (m : Moment π) (schedule : Nat → Event π) (n : Nat) : Prop :=
  ∃ j, (m.along schedule (n + j)).Ends e (schedule (n + j))

section

variable (hm : m.Reachable) (hmax : m.host.config.maxRetries < 0xFFFFFFFF)
  (hspares : ∀ n, (schedule n).Spares e.ticket)

include hm hmax hspares

/-- Up to any point of a schedule, the call of an errand has ended, or has come
    nearer to its end, or waits as before. -/
theorem approaches_along {n : Nat} (hpending : (m.along schedule n).host.pending e.ticket = [e])
    (j : Nat) :
    EndsFrom e m schedule n
      ∨ (∃ k, n < k ∧ (m.along schedule k).host.pending e.ticket = [e]
        ∧ (m.along schedule k).host.toGo e.ticket < (m.along schedule n).host.toGo e.ticket)
      ∨ (m.along schedule (n + j)).host.pending e.ticket = [e]
        ∧ (m.along schedule (n + j)).host.toGo e.ticket
          = (m.along schedule n).host.toGo e.ticket
        ∧ (m.along schedule (n + j)).host.due = (m.along schedule n).host.due := by
  -- by induction on how far along; an end and progress need not be followed up
  induction j with
  | zero => exact .inr (.inr ⟨hpending, rfl, rfl⟩)
  | succ j ih =>
    rcases ih with hends | hnearer | ⟨hstays, hsame, hdue⟩
    · exact .inl hends
    · exact .inr (.inl hnearer)
    · have hbound : (m.along schedule (n + j)).host.config.maxRetries < 0xFFFFFFFF := by
        rw [config_along]
        exact hmax
      cases approaches (hm.along schedule (n + j)) hbound hstays (hspares (n + j)) with
      | ends hends => exact .inl ⟨j, hends⟩
      | nearer hstays hlt =>
        have hlater : n < n + j + 1 := Nat.lt_succ_of_le (Nat.le_add_right n j)
        exact .inr (.inl ⟨n + j + 1, hlater, hstays, hsame ▸ hlt⟩)
      | waits hstays hstill hthen _ =>
        exact .inr (.inr ⟨hstays, hstill.trans hsame, hthen.trans hdue⟩)

/-- **No call stays where it is for ever.** -/
theorem Fair.ends_or_nearer (hfair : m.Fair schedule) {n : Nat}
    (hpending : (m.along schedule n).host.pending e.ticket = [e]) :
    EndsFrom e m schedule n
      ∨ ∃ k, n < k ∧ (m.along schedule k).host.pending e.ticket = [e]
        ∧ (m.along schedule k).host.toGo e.ticket < (m.along schedule n).host.toGo e.ticket := by
  obtain ⟨j, hlook, hlate⟩ := hfair.exists_look n (m.along schedule n).host.due
  rcases approaches_along hm hmax hspares hpending j with hends | hnearer | ⟨hstays, hsame, hdue⟩
  · exact .inl hends
  · exact .inr hnearer
  · have hbound : (m.along schedule (n + j)).host.config.maxRetries < 0xFFFFFFFF := by
      rw [config_along]
      exact hmax
    cases approaches (hm.along schedule (n + j)) hbound hstays (hspares (n + j)) with
    | ends hends => exact .inl ⟨j, hends⟩
    | nearer hstays hlt =>
      exact .inr ⟨n + j + 1, Nat.lt_succ_of_le (Nat.le_add_right n j), hstays, hsame ▸ hlt⟩
    | waits _ _ _ hearly =>
      -- a look this late is not made in vain
      have hbefore := hearly hlook
      rw [hdue] at hbefore
      exact absurd hlate (Nat.not_le.mpr hbefore)

/-- **Every exchange comes to its end**, whoever is in line before it, as long
    as time goes on and callers go on taking steps. -/
theorem Fair.exists_ends (hfair : m.Fair schedule) {n : Nat}
    (hpending : (m.along schedule n).host.pending e.ticket = [e]) :
    EndsFrom e m schedule n := by
  -- by induction on what is still to come
  induction hgo : (m.along schedule n).host.toGo e.ticket using Nat.strongRecOn
    generalizing n with
  | ind go ih =>
    rcases hfair.ends_or_nearer hm hmax hspares hpending with hends | ⟨k, hlater, hstays, hlt⟩
    · exact hends
    · obtain ⟨j, hends⟩ := ih _ (hgo ▸ hlt) hstays rfl
      refine ⟨k - n + j, ?_⟩
      rw [← Nat.add_assoc, Nat.add_sub_cancel' (Nat.le_of_lt hlater)]
      exact hends

end

end Moment

end ZWaveHost
