/-
  ZWaveHost.Proofs.Run.Bystander — what an exchange does not notice.

  Of a host, an exchange sees the settings, the registry, its own turn, its
  request in flight, the rejections and its transmissions.  Other callers,
  subscribers and the passing of time leave all of these alone.

  Main fact: so does every event but three (`agrees_after`); the three are a
  chunk that comes in, a caller's step, and a stop, and the stop only fails
  the request in flight (`agrees_stop`).
-/
import ZWaveHost.Proofs.Run.Event

namespace ZWaveHost

/-! ## §1. Hosts that look the same -/

namespace Host

/-- Two hosts that look the same to an exchange. -/
structure Agrees (h h' : Host) : Prop where
  config : h'.config = h.config
  registry : h'.registry = h.registry
  active : h'.active = h.active
  inFlight : h'.inFlight = h.inFlight
  rejections : h'.rejections = h.rejections
  transmissions : h'.transmissions = h.transmissions

theorem Agrees.refl (h : Host) : h.Agrees h := ⟨rfl, rfl, rfl, rfl, rfl, rfl⟩

theorem Agrees.trans {h h' h'' : Host} (h1 : h.Agrees h') (h2 : h'.Agrees h'') : h.Agrees h'' where
  config := h2.config.trans h1.config
  registry := h2.registry.trans h1.registry
  active := h2.active.trans h1.active
  inFlight := h2.inFlight.trans h1.inFlight
  rejections := h2.rejections.trans h1.rejections
  transmissions := h2.transmissions.trans h1.transmissions

/-- A failed request in flight looks the same in both. -/
theorem Agrees.failInFlight {h h' : Host} (ha : h.Agrees h') :
    (Adapter.failInFlight h).Agrees (Adapter.failInFlight h') where
  config := ha.config
  registry := ha.registry
  active := ha.active
  inFlight := by
    show h'.inFlight.map Sequence.fail = h.inFlight.map Sequence.fail
    rw [ha.inFlight]
  rejections := ha.rejections
  transmissions := ha.transmissions

/-- Whoever takes the next step sees what there was. -/
theorem agrees_mover (h : Host) : h.Agrees h.mover := by
  obtain ⟨_, _, heq⟩ := h.mover_eq
  rw [heq]
  exact ⟨rfl, rfl, rfl, rfl, rfl, rfl⟩

theorem transmissions_append (h : Host) (reports : List Report) :
    ({ h with outbox := h.outbox ++ reports } : Host).transmissions
      = h.transmissions ++ ({ h with outbox := reports } : Host).transmissions :=
  List.filterMap_append

theorem transmissions_report_finished (h : Host) (ticket : Nat)
    (result : Except HostError Outcome) :
    (h.report (.finished ticket result)).transmissions = h.transmissions := by
  show ({ h with outbox := h.outbox ++ [_] } : Host).transmissions = _
  rw [transmissions_append]
  exact List.append_nil _

/-! ## §2. Subscribers -/

theorem foldl_delivered (command : Command) (handles : List Subscription.Handle)
    (subscriptions : Subscriptions) (outbox : List Report) :
    handles.foldl (fun s handle => (s.1, s.2 ++ [Report.delivered handle command]))
        (subscriptions, outbox)
      = (subscriptions, outbox ++ handles.map fun handle => .delivered handle command) := by
  induction handles generalizing outbox with
  | nil => rw [List.map_nil, List.append_nil]; rfl
  | cons handle rest ih =>
    rw [List.foldl_cons, ih, List.append_assoc]
    rfl

/-- Commands that are handed over leave the queue, and reports of it the box. -/
theorem deliverNext_eq (h : Host) :
    ∃ queue subscriptions outbox, h.deliverNext
      = { h with queue := queue, subscriptions := subscriptions, outbox := outbox } := by
  unfold deliverNext
  split
  · exact ⟨_, _, _, rfl⟩
  · exact ⟨_, _, _, rfl⟩

theorem foldl_deliver_eq (commands : List Command) (h : Host) :
    ∃ subscriptions outbox, commands.foldl deliver h
      = { h with subscriptions := subscriptions, outbox := outbox } := by
  induction commands generalizing h with
  | nil => exact ⟨_, _, rfl⟩
  | cons command rest ih =>
    obtain ⟨subscriptions, outbox, heq⟩ := ih (h.deliver command)
    exact ⟨subscriptions, outbox, heq⟩

theorem deliverAll_eq (h : Host) :
    ∃ queue subscriptions outbox, h.deliverAll
      = { h with queue := queue, subscriptions := subscriptions, outbox := outbox } := by
  unfold deliverAll
  split
  · next commands hqueue =>
    obtain ⟨subscriptions, outbox, heq⟩ := foldl_deliver_eq commands { h with queue := some [] }
    exact ⟨_, subscriptions, outbox, heq⟩
  · exact ⟨_, _, _, rfl⟩

theorem agrees_deliver (h : Host) (command : Command) : h.Agrees (h.deliver command) := by
  refine ⟨rfl, rfl, rfl, rfl, rfl, ?_⟩
  have hbox : (h.deliver command).outbox = h.outbox ++
      (h.subscriptions.recipients command).map fun handle => .delivered handle command :=
    congrArg Prod.snd
      (foldl_delivered command (h.subscriptions.recipients command) h.subscriptions h.outbox)
  unfold transmissions
  rw [hbox, List.filterMap_append, List.filterMap_map]
  -- no report of a delivery is one of a transmission
  have hnone : (h.subscriptions.recipients command).filterMap
      (Report.transmission? ∘ fun handle => Report.delivered handle command) = [] :=
    List.filterMap_eq_nil_iff.mpr fun _ _ => rfl
  rw [hnone, List.append_nil]

theorem agrees_deliverNext (h : Host) : h.Agrees h.deliverNext := by
  unfold deliverNext
  split
  · next command rest hqueue =>
    have hleft : h.Agrees { h with queue := some rest } := ⟨rfl, rfl, rfl, rfl, rfl, rfl⟩
    exact hleft.trans (agrees_deliver _ command)
  · exact .refl h

theorem agrees_foldl_deliver (commands : List Command) (h : Host) :
    h.Agrees (commands.foldl deliver h) := by
  induction commands generalizing h with
  | nil => exact .refl h
  | cons command rest ih => exact (agrees_deliver h command).trans (ih (h.deliver command))

theorem agrees_deliverAll (h : Host) : h.Agrees h.deliverAll := by
  unfold deliverAll
  split
  · next commands hqueue =>
    have hleft : h.Agrees { h with queue := some [] } := ⟨rfl, rfl, rfl, rfl, rfl, rfl⟩
    exact hleft.trans (agrees_foldl_deliver commands _)
  · exact .refl h

end Host

/-! ## §3. Beginnings and ends -/

namespace Adapter

theorem closeQueue_eq (h : Host) :
    ∃ queue subscriptions outbox, closeQueue h
      = { h with queue := queue, subscriptions := subscriptions, outbox := outbox } := by
  unfold closeQueue
  obtain ⟨queue, subscriptions, outbox, heq⟩ := h.deliverAll_eq
  rw [heq]
  exact ⟨_, _, _, rfl⟩

variable {π : Type} [Port π] (a : Adapter π)

/-- The first half of a start says whether the adapter is running, and where its
    commands go; where it succeeds, nothing waits for the subscribers. -/
theorem openUp_host_eq {result : Except HostError Bool} {b : Adapter π}
    (hopened : a.openUp = some (result, b)) :
    (∃ running queue, b.host = { a.host with running := running, queue := queue })
      ∧ (result = .ok true → b.host.running = true ∧ b.host.queue = some []) := by
  unfold openUp at hopened
  split at hopened
  · cases hopened
    exact ⟨⟨_, _, rfl⟩, fun hok => by cases hok⟩
  split at hopened
  · cases hopened
  · split at hopened
    · cases hopened
      exact ⟨⟨_, _, rfl⟩, fun _ => ⟨rfl, rfl⟩⟩
    · next result' port hother _ =>
      cases hopened
      exact ⟨⟨_, _, rfl⟩, fun hok => absurd hok hother⟩

/-- On the link, the first half of a start touches the port only. -/
theorem openUp_link_eq {result : Except HostError Bool} {b : Adapter π}
    (hopened : a.openUp = some (result, b)) :
    ∃ port, b.link = { a.link with port := port } := by
  unfold openUp at hopened
  split at hopened
  · cases hopened
    exact ⟨a.link.port, rfl⟩
  split at hopened
  · cases hopened
  · split at hopened <;>
    · cases hopened
      exact ⟨_, rfl⟩

theorem start_of_opened {opened : Adapter π} (hopened : a.openUp = some (.ok true, opened)) :
    a.start = some (announce opened.host (opened.link.send .nak)) := by
  unfold start
  rw [hopened]

/-- **What a start comes to**: its first half is all of it, or the NAK follows. -/
theorem start_cases {result : Except HostError Bool} {b : Adapter π}
    (hstarted : a.start = some (result, b)) :
    a.openUp = some (result, b)
      ∨ ∃ opened, a.openUp = some (.ok true, opened)
        ∧ announce opened.host (opened.link.send .nak) = (result, b) := by
  unfold start at hstarted
  split at hstarted
  · next opened hopened => exact .inr ⟨opened, hopened, Option.some.inj hstarted⟩
  · exact .inl hstarted

/-- What a start comes to whose NAK is to wait. -/
theorem beginStart_cases {result : Except HostError Bool} {b : Adapter π}
    (hbegun : a.beginStart = some (result, b)) :
    a.openUp = some (result, b) ∧ result ≠ .ok true
      ∨ ∃ opened, a.openUp = some (.ok true, opened)
        ∧ b = { opened with link := opened.link.enqueue .starter .nak } := by
  unfold beginStart at hbegun
  split at hbegun
  · next opened hopened =>
    cases hbegun
    exact .inr ⟨opened, hopened, rfl⟩
  · next hother =>
    refine .inl ⟨hbegun, ?_⟩
    rintro rfl
    exact hother b hbegun

section

variable {h : Host} {sent : Except HostError Unit × Link π} {result : Except HostError Bool}
  {b : Adapter π}

omit [Port π] in
theorem link_of_announce (hannounced : announce h sent = (result, b)) : b.link = sent.2 := by
  obtain ⟨sent, link⟩ := sent
  cases sent <;> cases hannounced <;> rfl

omit [Port π] in
/-- A start that is over leaves the host alone, or closes the queue. -/
theorem host_of_announce (hannounced : announce h sent = (result, b)) :
    b.host = h ∨ b.host = { closeQueue h with running := false } := by
  obtain ⟨sent, link⟩ := sent
  cases sent with
  | ok _ =>
    cases hannounced
    exact .inl rfl
  | error e =>
    cases hannounced
    exact .inr rfl

end

/-- A start says no more than its first half does. -/
theorem start_host_eq {result : Except HostError Bool} {b : Adapter π}
    (hstarted : a.start = some (result, b)) :
    ∃ running queue, b.host = { a.host with running := running, queue := queue } := by
  rcases a.start_cases hstarted with hopened | ⟨opened, hopened, hannounced⟩
  · exact (a.openUp_host_eq hopened).1
  obtain ⟨⟨running, queue, heq⟩, hok⟩ := a.openUp_host_eq hopened
  rcases host_of_announce hannounced with hhost | hhost
  · exact ⟨running, queue, hhost.trans heq⟩
  · -- the queue that is closed is empty
    have hclosed : closeQueue opened.host = { opened.host with queue := none } := by
      unfold closeQueue Host.deliverAll
      rw [(hok rfl).2]
      rfl
    refine ⟨false, none, hhost.trans ?_⟩
    rw [hclosed, heq]

theorem beginStart_host_eq {result : Except HostError Bool} {b : Adapter π}
    (hbegun : a.beginStart = some (result, b)) :
    ∃ running queue, b.host = { a.host with running := running, queue := queue } := by
  rcases a.beginStart_cases hbegun with ⟨hopened, -⟩ | ⟨opened, hopened, rfl⟩
  · exact (a.openUp_host_eq hopened).1
  · exact (a.openUp_host_eq hopened).1

theorem endStart?_link_eq {result : Except HostError Bool} {b : Adapter π}
    (hended : a.endStart? = some (result, b)) : b.link = a.link.afterWait .starter := by
  obtain ⟨sent, hsent, hannounced⟩ := Option.map_eq_some_iff.mp hended
  unfold Link.afterWait
  rw [hsent]
  exact link_of_announce hannounced

theorem endStart?_host_eq {result : Except HostError Bool} {b : Adapter π}
    (hended : a.endStart? = some (result, b)) :
    b.host = a.host ∨ b.host = { closeQueue a.host with running := false } := by
  obtain ⟨_, _, hannounced⟩ := Option.map_eq_some_iff.mp hended
  exact host_of_announce hannounced

/-- An adapter stays, or it goes away while nobody has a turn. -/
theorem expire_host_eq : a.expire.host = a.host
    ∨ a.host.active = none ∧ ∃ running queue subscriptions outbox, a.expire.host
      = { a.host with lifetime := .gone, running := running, queue := queue
                      subscriptions := subscriptions, outbox := outbox } := by
  unfold expire
  split
  · next hnobody =>
    right
    refine ⟨Option.isNone_iff_eq_none.mp hnobody.2.1, ?_⟩
    dsimp only
    split
    · obtain ⟨queue, subscriptions, outbox, heq⟩ :=
        closeQueue_eq { a.host with lifetime := .gone, running := false }
      exact ⟨false, queue, subscriptions, outbox, heq⟩
    · exact ⟨_, _, _, _, rfl⟩
  · exact .inl rfl

end Adapter

/-! ## §4. Events -/

/-- An event that no exchange notices. -/
def Event.IsBystander {π : Type} : Event π → Prop
  | .receive _ => False
  | .look => False
  | .stop => False
  | _ => True

namespace Moment

variable {π : Type} [Port π] (m : Moment π)

open Host

/-- A start says whether the adapter is running, and where its commands go. -/
theorem start_host_eq : ∃ running queue,
    (m.after .start).host = { m.host with running := running, queue := queue } :=
  withAdapter?_rec
    (P := fun a => ∃ running queue, a.host = { m.host with running := running, queue := queue })
    ⟨_, _, rfl⟩ fun _ _ hstarted => m.adapter.start_host_eq hstarted

/-- So does one that has begun. -/
theorem beginStart_host_eq : ∃ running queue,
    (m.after .beginStart).host = { m.host with running := running, queue := queue } :=
  withAdapter?_rec
    (P := fun a => ∃ running queue, a.host = { m.host with running := running, queue := queue })
    ⟨_, _, rfl⟩ fun _ _ hbegun => m.adapter.beginStart_host_eq hbegun

/-- A start that is over leaves the host alone, or closes the queue. -/
theorem endStart_host_eq : (m.after .endStart).host = m.host
    ∨ (m.after .endStart).host = { Adapter.closeQueue m.host with running := false } :=
  withAdapter?_rec
    (P := fun a => a.host = m.host ∨ a.host = { Adapter.closeQueue m.host with running := false })
    (.inl rfl) fun _ _ hended => m.adapter.endStart?_host_eq hended

theorem agrees_closeQueue (h : Host) :
    h.Agrees { Adapter.closeQueue h with running := false } := by
  have hemptied := agrees_deliverAll h
  exact ⟨hemptied.config, hemptied.registry, hemptied.active, hemptied.inFlight,
    hemptied.rejections, hemptied.transmissions⟩

theorem agrees_start : m.host.Agrees (m.after .start).host := by
  obtain ⟨_, _, heq⟩ := m.start_host_eq
  rw [heq]
  exact ⟨rfl, rfl, rfl, rfl, rfl, rfl⟩

theorem agrees_beginStart : m.host.Agrees (m.after .beginStart).host := by
  obtain ⟨_, _, heq⟩ := m.beginStart_host_eq
  rw [heq]
  exact ⟨rfl, rfl, rfl, rfl, rfl, rfl⟩

theorem agrees_endStart : m.host.Agrees (m.after .endStart).host := by
  rcases m.endStart_host_eq with heq | heq
  · rw [heq]
    exact .refl m.host
  · rw [heq]
    exact agrees_closeQueue m.host

theorem agrees_send (request : Request) : m.host.Agrees (m.after (.send request)).host := by
  show m.host.Agrees (m.adapter.send request).2.host
  unfold Adapter.send
  dsimp only
  split
  · exact ⟨rfl, rfl, rfl, rfl, rfl, transmissions_report_finished _ _ _⟩
  · exact ⟨rfl, rfl, rfl, rfl, rfl, rfl⟩

theorem agrees_abandon {x : Exchange} {ticket : Nat} (hx : m.host.active = some x)
    (hticket : ticket ≠ x.errand.ticket) : m.host.Agrees (m.after (.abandon ticket)).host := by
  refine ⟨rfl, rfl, ?_, rfl, rfl, rfl⟩
  -- the ticket is another one, so the filter keeps the turn
  show m.host.active.filter (·.errand.ticket ≠ ticket) = m.host.active
  have hkept : decide (x.errand.ticket ≠ ticket) = true := decide_eq_true hticket.symm
  rw [hx, Option.filter_some, if_pos hkept]

theorem agrees_release : m.host.Agrees (m.after .release).host := by
  show m.host.Agrees m.adapter.release.host
  unfold Adapter.release
  split
  · exact ⟨rfl, rfl, rfl, rfl, rfl, rfl⟩
  · exact .refl m.host

/-- An adapter does not go away while a caller is waiting. -/
theorem agrees_expire {x : Exchange} (hx : m.host.active = some x) :
    m.host.Agrees (m.after .expire).host := by
  show m.host.Agrees m.adapter.expire.host
  rcases m.adapter.expire_host_eq with heq | ⟨hnone, _⟩
  · rw [heq]
    exact .refl m.host
  · rw [show m.adapter.host.active = some x from hx] at hnone
    cases hnone

/-- **An exchange does not notice what happens beside it.** -/
theorem agrees_after {x : Exchange} {event : Event π} (hx : m.host.active = some x)
    (hbystander : event.IsBystander) (hspares : event.Spares x.errand.ticket) :
    m.host.Agrees (m.after event).host ∧ m.happenings event = [] := by
  cases event with
  | receive bytes => cases hbystander
  | look => cases hbystander
  | stop => cases hbystander
  | pass milliseconds => exact ⟨.refl m.host, rfl⟩
  | start => exact ⟨m.agrees_start, rfl⟩
  | beginStart => exact ⟨m.agrees_beginStart, rfl⟩
  | endStart => exact ⟨m.agrees_endStart, rfl⟩
  | endWait ticket => exact ⟨.refl m.host, rfl⟩
  | send request => exact ⟨m.agrees_send request, rfl⟩
  | abandon ticket => exact ⟨m.agrees_abandon hx hspares, rfl⟩
  | release => exact ⟨m.agrees_release, rfl⟩
  | expire => exact ⟨m.agrees_expire hx, rfl⟩
  | dispatch => exact ⟨agrees_deliverNext m.host, rfl⟩
  | subscribe kind accepts => exact ⟨⟨rfl, rfl, rfl, rfl, rfl, rfl⟩, rfl⟩
  | unsubscribe handle => exact ⟨⟨rfl, rfl, rfl, rfl, rfl, rfl⟩, rfl⟩
  | nextSession => exact ⟨⟨rfl, rfl, rfl, rfl, rfl, rfl⟩, rfl⟩
  | port change => exact ⟨.refl m.host, rfl⟩

/-- Nothing beside an exchange begins another one: whoever has a turn afterwards
    had it before. -/
theorem active_of_after {x : Exchange} {event : Event π} (hbystander : event.IsBystander)
    (hx : (m.after event).host.active = some x) :
    m.host.active = some x ∧ event.Spares x.errand.ticket := by
  cases event with
  | receive bytes => cases hbystander
  | look => cases hbystander
  | stop => cases hbystander
  | start => exact ⟨m.agrees_start.active.symm.trans hx, trivial⟩
  | beginStart => exact ⟨m.agrees_beginStart.active.symm.trans hx, trivial⟩
  | endStart => exact ⟨m.agrees_endStart.active.symm.trans hx, trivial⟩
  | endWait ticket => exact ⟨hx, trivial⟩
  | send request => exact ⟨(m.agrees_send request).active.symm.trans hx, trivial⟩
  | abandon ticket =>
    have hx : m.host.active.filter (·.errand.ticket ≠ ticket) = some x := hx
    obtain ⟨hactive, hother⟩ := Option.filter_eq_some_iff.mp hx
    have hother : x.errand.ticket ≠ ticket := of_decide_eq_true hother
    exact ⟨hactive, hother.symm⟩
  | release => exact ⟨m.agrees_release.active.symm.trans hx, trivial⟩
  | expire =>
    have hx : m.adapter.expire.host.active = some x := hx
    rcases m.adapter.expire_host_eq with heq | ⟨hnone, _, _, _, _, heq⟩
    · rw [heq] at hx
      exact ⟨hx, trivial⟩
    · -- an adapter that goes away leaves nobody with a turn
      rw [heq, show _ = none from hnone] at hx
      cases hx
  | dispatch => exact ⟨(agrees_deliverNext m.host).active.symm.trans hx, trivial⟩
  | pass milliseconds => exact ⟨hx, trivial⟩
  | subscribe kind accepts => exact ⟨hx, trivial⟩
  | unsubscribe handle => exact ⟨hx, trivial⟩
  | nextSession => exact ⟨hx, trivial⟩
  | port change => exact ⟨hx, trivial⟩

/-- **A stop fails the request in flight**, if the adapter is running, and
    an exchange notices nothing else of it. -/
theorem agrees_stop : m.host.Agrees (m.after .stop).host
    ∨ (Adapter.failInFlight m.host).Agrees (m.after .stop).host := by
  show m.host.Agrees m.adapter.stop.2.host
    ∨ (Adapter.failInFlight m.host).Agrees m.adapter.stop.2.host
  unfold Adapter.stop
  split
  · right
    let stopped : Host := { m.host with running := false }
    have hstopped : m.host.Agrees stopped := ⟨rfl, rfl, rfl, rfl, rfl, rfl⟩
    have hemptied : m.host.Agrees stopped.deliverAll := hstopped.trans (agrees_deliverAll stopped)
    have hclosed : m.host.Agrees (Adapter.closeQueue stopped) :=
      ⟨hemptied.config, hemptied.registry, hemptied.active, hemptied.inFlight,
        hemptied.rejections, hemptied.transmissions⟩
    exact hclosed.failInFlight
  · exact .inl (.refl m.host)

/-- A stop notices no rejection and hands out no session id. -/
theorem kept_stop : (m.after .stop).host.permit = m.host.permit
    ∧ (m.after .stop).host.lastSession = m.host.lastSession := by
  show m.adapter.stop.2.host.permit = m.adapter.host.permit
    ∧ m.adapter.stop.2.host.lastSession = m.adapter.host.lastSession
  unfold Adapter.stop
  split
  · obtain ⟨_, _, _, heq⟩ := Adapter.closeQueue_eq { m.adapter.host with running := false }
    show (Adapter.closeQueue { m.adapter.host with running := false }).permit = _
      ∧ (Adapter.closeQueue { m.adapter.host with running := false }).lastSession = _
    rw [heq]
    exact ⟨rfl, rfl⟩
  · exact ⟨rfl, rfl⟩

/-- Nor does anything beside an exchange, but for a call that asks for an id. -/
theorem kept_after {event : Event π} (hbystander : event.IsBystander) :
    (m.after event).host.permit = m.host.permit
      ∧ (event ≠ .nextSession → (m.after event).host.lastSession = m.host.lastSession) := by
  cases event with
  | receive bytes => cases hbystander
  | look => cases hbystander
  | stop => cases hbystander
  | start =>
    obtain ⟨_, _, heq⟩ := m.start_host_eq
    rw [heq]
    exact ⟨rfl, fun _ => rfl⟩
  | beginStart =>
    obtain ⟨_, _, heq⟩ := m.beginStart_host_eq
    rw [heq]
    exact ⟨rfl, fun _ => rfl⟩
  | endStart =>
    obtain ⟨_, _, _, hclosed⟩ := Adapter.closeQueue_eq m.host
    rcases m.endStart_host_eq with heq | heq
    · rw [heq]
      exact ⟨rfl, fun _ => rfl⟩
    · rw [heq, hclosed]
      exact ⟨rfl, fun _ => rfl⟩
  | endWait ticket => exact ⟨rfl, fun _ => rfl⟩
  | send request =>
    show (m.adapter.send request).2.host.permit = m.adapter.host.permit
      ∧ (_ → (m.adapter.send request).2.host.lastSession = m.adapter.host.lastSession)
    unfold Adapter.send
    dsimp only
    split <;> exact ⟨rfl, fun _ => rfl⟩
  | release =>
    show m.adapter.release.host.permit = m.adapter.host.permit
      ∧ (_ → m.adapter.release.host.lastSession = m.adapter.host.lastSession)
    unfold Adapter.release
    split <;> exact ⟨rfl, fun _ => rfl⟩
  | expire =>
    show m.adapter.expire.host.permit = m.adapter.host.permit
      ∧ (_ → m.adapter.expire.host.lastSession = m.adapter.host.lastSession)
    rcases m.adapter.expire_host_eq with heq | ⟨_, _, _, _, _, heq⟩ <;>
    · rw [heq]
      exact ⟨rfl, fun _ => rfl⟩
  | dispatch =>
    obtain ⟨_, _, _, heq⟩ := m.host.deliverNext_eq
    show m.host.deliverNext.permit = m.host.permit
      ∧ (_ → m.host.deliverNext.lastSession = m.host.lastSession)
    rw [heq]
    exact ⟨rfl, fun _ => rfl⟩
  | nextSession => exact ⟨rfl, fun hother => absurd rfl hother⟩
  | pass milliseconds => exact ⟨rfl, fun _ => rfl⟩
  | abandon ticket => exact ⟨rfl, fun _ => rfl⟩
  | subscribe kind accepts => exact ⟨rfl, fun _ => rfl⟩
  | unsubscribe handle => exact ⟨rfl, fun _ => rfl⟩
  | port change => exact ⟨rfl, fun _ => rfl⟩

theorem permit_stop : (m.after .stop).host.permit = m.host.permit := m.kept_stop.1

theorem permit_after {event : Event π} (hbystander : event.IsBystander) :
    (m.after event).host.permit = m.host.permit :=
  (m.kept_after hbystander).1

end Moment

end ZWaveHost
