/-
  ZWaveHost.Proofs.Run.Waiters — the callers that wait for the line.

  A caller that hands its frame over while the line is held waits there, and
  everything else goes on beside it.  Its wait ends by itself or with the next
  step of the caller; whatever else happens leaves it where it is
  (`waitsWith?_after`).

  Main fact: whoever waits for the line has handed a frame over
  (`Reachable.sent_of_waits`), so nobody waits twice.
-/
import ZWaveHost.Proofs.Run.CallNotes

namespace ZWaveHost

variable {π : Type}

/-! ## §1. One wait beside others -/

namespace Link

variable {l l' : Link π} {sender other : Sender} {frame : Frame}

theorem waitsWith?_congr (hwaiters : l'.waiters = l.waiters) :
    l'.waitsWith? sender = l.waitsWith? sender := by
  unfold waitsWith?
  rw [hwaiters]

/-- Whoever waits alone under its name waits with its own frame. -/
theorem waitsWith?_enqueue_self (hnone : l.waitsWith? sender = none) :
    (l.enqueue sender frame).waitsWith? sender = some frame := by
  unfold waitsWith? at hnone ⊢
  show ((l.waiters ++ [(sender, frame)]).find? (·.1 = sender)).map (·.2) = some frame
  have hfound : [(sender, frame)].find? (·.1 = sender) = some (sender, frame) :=
    List.find?_cons_of_pos (decide_eq_true rfl)
  rw [List.find?_append, Option.map_eq_none_iff.mp hnone, Option.none_or, hfound]
  rfl

/-- One more wait is nothing to the others. -/
theorem waitsWith?_enqueue_ne (hother : other ≠ sender) :
    (l.enqueue other frame).waitsWith? sender = l.waitsWith? sender := by
  unfold waitsWith?
  show ((l.waiters ++ [(other, frame)]).find? (·.1 = sender)).map (·.2) = _
  rw [List.find?_append, List.find?_cons_of_neg (by simpa using hother), List.find?_nil,
    Option.or_none]

/-- Nor is the end of one. -/
theorem waitsWith?_dismiss_ne (hother : other ≠ sender) :
    (l.dismiss other).waitsWith? sender = l.waitsWith? sender := by
  unfold waitsWith?
  show ((l.waiters.eraseP (·.1 = other)).find? (·.1 = sender)).map (·.2) = _
  congr 1
  induction l.waiters with
  | nil => rfl
  | cons waiter rest ih =>
    by_cases hdismissed : waiter.1 = other
    · have hpassed : (waiter :: rest).find? (·.1 = sender) = rest.find? (·.1 = sender) := by
        refine List.find?_cons_of_neg ?_
        rw [hdismissed]
        simpa using hother
      rw [List.eraseP_cons_of_pos (by simpa using hdismissed), hpassed]
    · rw [List.eraseP_cons_of_neg (by simpa using hdismissed), List.find?_cons, List.find?_cons, ih]

variable [Port π]

theorem waitsWith?_post_ne (hother : other ≠ sender) :
    (l.post other frame).waitsWith? sender = l.waitsWith? sender := by
  unfold post
  split
  · exact waitsWith?_congr (l.send_waiters frame)
  · exact waitsWith?_enqueue_ne hother

theorem waitsWith?_afterWait_ne (hother : other ≠ sender) :
    (l.afterWait other).waitsWith? sender = l.waitsWith? sender := by
  refine afterWait_rec (P := fun l' => l'.waitsWith? sender = l.waitsWith? sender) rfl ?_
  intro frame
  rw [waitsWith?_congr ((l.dismiss other).send_waiters frame)]
  exact waitsWith?_dismiss_ne hother

/-- A wait that ends leaves nobody waiting who did not wait before. -/
theorem waits_of_afterWait : ((l.afterWait other).waitsWith? sender).isSome = true →
    (l.waitsWith? sender).isSome = true := by
  refine afterWait_rec (P := fun l' => (l'.waitsWith? sender).isSome = true →
    (l.waitsWith? sender).isSome = true) id ?_
  intro frame h
  rw [waitsWith?_congr ((l.dismiss other).send_waiters frame)] at h
  unfold waitsWith? at h ⊢
  rw [Option.isSome_map, List.find?_isSome] at h ⊢
  obtain ⟨waiter, hmem, hwaiter⟩ := h
  exact ⟨waiter, List.mem_of_mem_eraseP hmem, hwaiter⟩

theorem closePort_waiters (l : Link π) : l.closePort.2.waiters = l.waiters := by
  unfold closePort
  split
  · rfl
  · exact resynchronize_waiters _

omit [Port π] in
theorem tookIn_waiters (l : Link π) (byte : UInt8) : (l.tookIn byte).waiters = l.waiters := by
  unfold tookIn receiveByte
  dsimp only
  split <;> rfl

end Link

variable [Port π]

/-- A frame that is accepted is answered without a wait. -/
theorem Host.accept_waiters (frame : Frame) (l : Link π) (h : Host) :
    (Host.accept frame (l, h)).1.waiters = l.waiters := by
  cases frame with
  | ack => rfl
  | nak => rfl
  | can => rfl
  | data f =>
    obtain ⟨received, heq⟩ := Host.acceptData_link f l h
    show (Host.acceptData f (l, h)).1.waiters = l.waiters
    rw [heq]
    exact l.send_waiters _

namespace Adapter

variable {a b : Adapter π} {result : Except HostError Bool}

theorem receive_waiters (hl : a.link.Balanced) (bytes : List UInt8) :
    (a.receive bytes).link.waiters = a.link.waiters := by
  unfold receive
  split
  · rfl
  refine (Link.receive_induction (P := fun _ s => s.1.waiters = a.link.waiters)
    Host.keepsIdle_accept ?_ bytes [] hl rfl).1
  intro _ l h byte _ hwaiters
  have htook := (l.tookIn_waiters byte).trans hwaiters
  cases (l.decoder.push byte).1 with
  | error e => exact ((l.tookIn byte).send_waiters .nak).trans htook
  | ok event =>
    cases event with
    | pending => exact htook
    | outOfFrame noise => exact htook
    | frame frame => exact (Host.accept_waiters frame _ h).trans htook

theorem start_waiters (hstarted : a.start = some (result, b)) :
    b.link.waiters = a.link.waiters := by
  rcases a.start_cases hstarted with hopened | ⟨opened, hopened, hannounced⟩
  · obtain ⟨port, hlink⟩ := a.openUp_link_eq hopened
    rw [hlink]
  · obtain ⟨port, hlink⟩ := a.openUp_link_eq hopened
    rw [link_of_announce hannounced, Link.send_waiters, hlink]

/-- Only the NAK of a start may wait. -/
theorem beginStart_waitsWith? (hbegun : a.beginStart = some (result, b)) (ticket : Nat) :
    b.link.waitsWith? (.caller ticket) = a.link.waitsWith? (.caller ticket) := by
  rcases a.beginStart_cases hbegun with ⟨hopened, -⟩ | ⟨opened, hopened, rfl⟩
  · obtain ⟨port, hlink⟩ := a.openUp_link_eq hopened
    exact Link.waitsWith?_congr (by rw [hlink])
  · obtain ⟨port, hlink⟩ := a.openUp_link_eq hopened
    have hother : Sender.starter ≠ .caller ticket := nofun
    exact (Link.waitsWith?_enqueue_ne hother).trans (Link.waitsWith?_congr (by rw [hlink]))

end Adapter

/-! ## §2. Events -/

namespace Moment

open Adapter

variable {m : Moment π}

/-- **A caller's wait ends by itself or with the next step**; whatever else
    happens, it goes on. -/
theorem waitsWith?_after (hm : m.Reachable) {event : Event π} {ticket : Nat}
    (hlook : event ≠ .look) (hend : event ≠ .endWait ticket) :
    (m.after event).adapter.link.waitsWith? (.caller ticket)
      = m.adapter.link.waitsWith? (.caller ticket) := by
  let Same (a : Adapter π) : Prop :=
    a.link.waitsWith? (.caller ticket) = m.adapter.link.waitsWith? (.caller ticket)
  cases event with
  | look => exact absurd rfl hlook
  | endWait t =>
    refine Link.waitsWith?_afterWait_ne fun heq => hend ?_
    rw [Sender.caller.inj heq]
  | receive bytes => exact Link.waitsWith?_congr (Adapter.receive_waiters hm.balanced bytes)
  | start =>
    exact withAdapter?_rec (P := Same) rfl fun _ _ hstarted =>
      Link.waitsWith?_congr (start_waiters hstarted)
  | beginStart =>
    exact withAdapter?_rec (P := Same) rfl fun _ _ hbegun => beginStart_waitsWith? hbegun ticket
  | endStart =>
    refine withAdapter?_rec (P := Same) rfl fun _ a hended => ?_
    show a.link.waitsWith? _ = _
    rw [m.adapter.endStart?_link_eq hended]
    exact Link.waitsWith?_afterWait_ne nofun
  | stop =>
    show m.adapter.stop.2.link.waitsWith? _ = _
    unfold Adapter.stop
    split
    · exact Link.waitsWith?_congr m.adapter.link.closePort_waiters
    · rfl
  | expire =>
    show m.adapter.expire.link.waitsWith? _ = _
    unfold Adapter.expire
    split
    · dsimp only
      split
      · exact Link.waitsWith?_congr m.adapter.link.closePort_waiters
      · rfl
    · rfl
  | release =>
    show m.adapter.release.link.waitsWith? _ = _
    unfold Adapter.release
    split <;> rfl
  | _ => rfl

/-- Whoever waits after a step waited before, or has handed its frame over in
    this step. -/
theorem waits_of_look {sender : Sender}
    (hwaits : ((m.after .look).adapter.link.waitsWith? sender).isSome = true) :
    (m.adapter.link.waitsWith? sender).isSome = true
      ∨ ∃ e s, m.host.nextMove? m.now = some (e, .transmit s) ∧ sender = .caller e.ticket := by
  have hturn : (m.adapter.turnLink.waitsWith? sender).isSome = true →
      (m.adapter.link.waitsWith? sender).isSome = true :=
    turnLink_rec (P := fun l => (l.waitsWith? sender).isSome = true →
      (m.adapter.link.waitsWith? sender).isSome = true) id fun _ => Link.waits_of_afterWait
  rw [look_adapter] at hwaits
  cases hmove : m.host.nextMove? m.now with
  | none =>
    rw [hmove] at hwaits
    exact .inl (hturn hwaits)
  | some next =>
    obtain ⟨e, move⟩ := next
    rw [hmove] at hwaits
    cases move with
    | rest => exact .inl (hturn hwaits)
    | finish result => exact .inl (hturn hwaits)
    | transmit s =>
      by_cases hself : sender = .caller e.ticket
      · exact .inr ⟨e, s, rfl, hself⟩
      · refine .inl (hturn ?_)
        rw [← Link.waitsWith?_post_ne (Ne.symm hself)]
        exact hwaits

/-- **Whoever waits for the line has handed a frame over.** -/
theorem Reachable.sent_of_waits (hm : m.Reachable) {ticket : Nat}
    (hwaits : (m.adapter.link.waitsWith? (.caller ticket)).isSome = true) :
    m.host.sent ticket ≠ [] := by
  -- an invariant, since what has been handed over is never taken back
  refine (hm.induction (P := fun m => m.Reachable
    ∧ ((m.adapter.link.waitsWith? (.caller ticket)).isSome = true → m.host.sent ticket ≠ []))
    (fun _ _ _ _ _ => ⟨⟨_, _, _, _, _, [], rfl⟩, nofun⟩) ?_).2 hwaits
  rintro m event ⟨hm, ih⟩
  refine ⟨hm.after event, fun hwaits => ?_⟩
  have hgrows (hbefore : (m.adapter.link.waitsWith? (.caller ticket)).isSome = true) :
      (m.after event).host.sent ticket ≠ [] := by
    rw [sent_after]
    exact List.append_ne_nil_of_left_ne_nil (ih hbefore) _
  by_cases hlook : event = .look
  · obtain rfl := hlook
    rcases waits_of_look hwaits with hbefore | ⟨e, s, hmove, hself⟩
    · exact hgrows hbefore
    · obtain rfl := Sender.caller.inj hself
      rw [sent_after, marksOf_look hmove]
      exact List.append_ne_nil_of_right_ne_nil _ (List.cons_ne_nil _ _)
  by_cases hend : event = .endWait ticket
  · obtain rfl := hend
    exact hgrows (Link.waits_of_afterWait hwaits)
  · rw [waitsWith?_after hm hlook hend] at hwaits
    exact hgrows hwaits

/-- Nobody waits who has not sent anything. -/
theorem Reachable.waitsWith?_eq_none (hm : m.Reachable) {ticket : Nat}
    (hunsent : m.host.sent ticket = []) :
    m.adapter.link.waitsWith? (.caller ticket) = none := by
  by_contra hwaits
  exact hm.sent_of_waits (Option.isSome_iff_ne_none.mpr hwaits) hunsent

end Moment

end ZWaveHost
