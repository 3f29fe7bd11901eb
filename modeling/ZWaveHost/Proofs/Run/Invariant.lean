/-
  ZWaveHost.Proofs.Run.Invariant — what holds of every moment that can be
  reached.

  Main facts: the link is always in balance (`Reachable.balanced`), the
  settings and the registry stay as they are (`constants_after`), and the
  request in flight always has the flow that the registry gives its command
  (`Reachable.registered`).
-/
import ZWaveHost.Proofs.Request.Encoding
import ZWaveHost.Proofs.Run.Bystander
import ZWaveHost.Proofs.Run.Chunk
import ZWaveHost.Proofs.Run.History

namespace ZWaveHost

open Adapter

variable {π : Type} [Port π]

/-! ## §1. Links -/

namespace Moment

theorem balanced_receive {m : Moment π} (hm : m.adapter.link.Balanced) (bytes : List UInt8) :
    (m.after (.receive bytes)).adapter.link.Balanced :=
  Adapter.receive_balanced hm bytes

theorem balanced_look {m : Moment π} (hm : m.adapter.link.Balanced) :
    (m.after .look).adapter.link.Balanced := by
  have hturn : m.adapter.turnLink.Balanced :=
    turnLink_rec (P := Link.Balanced) hm fun ticket => hm.afterWait (.caller ticket)
  rw [look_adapter]
  cases m.host.nextMove? m.now with
  | none => exact hturn
  | some next =>
    obtain ⟨e, move⟩ := next
    cases move with
    | rest => exact hturn
    | transmit s => exact hturn.post _ _
    | finish result => exact hturn

/-- However far a start gets, the link stays in balance. -/
theorem balanced_openUp {a b : Adapter π} {result : Except HostError Bool}
    (ha : a.link.Balanced) (hopened : a.openUp = some (result, b)) : b.link.Balanced := by
  obtain ⟨port, hlink⟩ := a.openUp_link_eq hopened
  rw [hlink]
  exact ha.withPort port

theorem balanced_start {a b : Adapter π} {result : Except HostError Bool}
    (ha : a.link.Balanced) (hstarted : a.start = some (result, b)) : b.link.Balanced := by
  rcases a.start_cases hstarted with hopened | ⟨opened, hopened, hannounced⟩
  · exact balanced_openUp ha hopened
  · rw [link_of_announce hannounced]
    exact ((balanced_openUp ha hopened).send_idle .nak).balanced

theorem balanced_beginStart {a b : Adapter π} {result : Except HostError Bool}
    (ha : a.link.Balanced) (hbegun : a.beginStart = some (result, b)) : b.link.Balanced := by
  rcases a.beginStart_cases hbegun with ⟨hopened, -⟩ | ⟨opened, hopened, rfl⟩
  · exact balanced_openUp ha hopened
  · show opened.link.Balanced
    exact balanced_openUp ha hopened

theorem balanced_endStart {a b : Adapter π} {result : Except HostError Bool}
    (ha : a.link.Balanced) (hended : a.endStart? = some (result, b)) : b.link.Balanced := by
  rw [a.endStart?_link_eq hended]
  exact ha.afterWait .starter

/-- **Every event keeps the link in balance.** -/
theorem balanced_after {m : Moment π} (hm : m.adapter.link.Balanced) (event : Event π) :
    (m.after event).adapter.link.Balanced := by
  -- only what sends, receives, opens or closes touches the link
  cases event with
  | receive bytes => exact balanced_receive hm bytes
  | look => exact balanced_look hm
  | start =>
    exact withAdapter?_rec (P := fun a => a.link.Balanced) hm fun _ _ => balanced_start hm
  | beginStart =>
    exact withAdapter?_rec (P := fun a => a.link.Balanced) hm fun _ _ => balanced_beginStart hm
  | endStart =>
    exact withAdapter?_rec (P := fun a => a.link.Balanced) hm fun _ _ => balanced_endStart hm
  | endWait ticket => exact hm.afterWait (.caller ticket)
  | stop =>
    show m.adapter.stop.2.link.Balanced
    unfold Adapter.stop
    split
    · exact hm.closePort
    · exact hm
  | expire =>
    show m.adapter.expire.link.Balanced
    unfold Adapter.expire
    split
    · dsimp only
      split
      · exact hm.closePort
      · exact hm
    · exact hm
  | release =>
    show m.adapter.release.link.Balanced
    unfold Adapter.release
    split <;> exact hm
  | port change => exact hm.withPort _
  | pass milliseconds => exact hm
  | send request => exact hm
  | abandon ticket => exact hm
  | dispatch => exact hm
  | subscribe kind accepts => exact hm
  | unsubscribe handle => exact hm
  | nextSession => exact hm

theorem Reachable.balanced {m : Moment π} (hm : m.Reachable) : m.adapter.link.Balanced :=
  hm.induction (P := fun m => m.adapter.link.Balanced)
    (fun _ port config _ _ => (Link.idle_new port config.timeout).balanced)
    (fun _ event h => balanced_after h event)

end Moment

/-! ## §2. Settings -/

namespace Moment

/-- A step of a caller changes neither the settings nor the registry. -/
theorem constants_look (m : Moment π) : (m.after .look).host.config = m.host.config
    ∧ (m.after .look).host.registry = m.host.registry := by
  obtain ⟨_, _, hmover⟩ := m.host.mover_eq
  have hsame : m.host.mover.config = m.host.config ∧ m.host.mover.registry = m.host.registry := by
    rw [hmover]
    exact ⟨rfl, rfl⟩
  cases hmove : m.host.nextMove? m.now with
  | none =>
    rw [(look_of_none hmove).1]
    exact ⟨rfl, rfl⟩
  | some next =>
    obtain ⟨e, move⟩ := next
    rw [(look_of_nextMove hmove).1]
    cases move with
    | rest => exact hsame
    | transmit s => exact hsame
    | finish result =>
      obtain ⟨_, _, heq⟩ := conclude_eq m.host.left e result
      show (conclude m.host.left e result).config = _
        ∧ (conclude m.host.left e result).registry = _
      rw [heq]
      exact hsame

/-- **The settings and the registry never change.** -/
theorem constants_after (m : Moment π) (event : Event π) :
    (m.after event).host.config = m.host.config
      ∧ (m.after event).host.registry = m.host.registry := by
  have hagreeing {h : Host} (ha : m.host.Agrees h) :
      h.config = m.host.config ∧ h.registry = m.host.registry := ⟨ha.config, ha.registry⟩
  cases event with
  | receive bytes =>
    obtain ⟨_, _, _, _, heq⟩ := m.adapter.receive_host_eq bytes
    show (m.adapter.receive bytes).host.config = m.adapter.host.config
      ∧ (m.adapter.receive bytes).host.registry = m.adapter.host.registry
    rw [heq]
    exact ⟨rfl, rfl⟩
  | look => exact m.constants_look
  | start => exact hagreeing m.agrees_start
  | beginStart => exact hagreeing m.agrees_beginStart
  | endStart => exact hagreeing m.agrees_endStart
  | endWait ticket => exact ⟨rfl, rfl⟩
  | stop =>
    rcases m.agrees_stop with hagrees | hagrees
    · exact hagreeing hagrees
    · exact ⟨hagrees.config, hagrees.registry⟩
  | send request => exact hagreeing (m.agrees_send request)
  | release => exact hagreeing m.agrees_release
  | dispatch => exact hagreeing (Host.agrees_deliverNext m.host)
  | expire =>
    show m.adapter.expire.host.config = m.adapter.host.config
      ∧ m.adapter.expire.host.registry = m.adapter.host.registry
    rcases m.adapter.expire_host_eq with heq | ⟨_, _, _, _, _, heq⟩ <;>
    · rw [heq]
      exact ⟨rfl, rfl⟩
  | pass milliseconds => exact ⟨rfl, rfl⟩
  | abandon ticket => exact ⟨rfl, rfl⟩
  | subscribe kind accepts => exact ⟨rfl, rfl⟩
  | unsubscribe handle => exact ⟨rfl, rfl⟩
  | nextSession => exact ⟨rfl, rfl⟩
  | port change => exact ⟨rfl, rfl⟩

theorem config_after (m : Moment π) (event : Event π) :
    (m.after event).host.config = m.host.config :=
  (m.constants_after event).1

theorem registry_run (m : Moment π) (events : List (Event π)) :
    (m.run events).host.registry = m.host.registry := by
  induction events generalizing m with
  | nil => rfl
  | cons event rest ih => exact (ih (m.after event)).trans (m.constants_after event).2

theorem config_run (m : Moment π) (events : List (Event π)) :
    (m.run events).host.config = m.host.config := by
  induction events generalizing m with
  | nil => rfl
  | cons event rest ih => exact (ih (m.after event)).trans (m.config_after event)

end Moment

/-! ## §3. Requests in flight -/

/-- A command id has an entry with this flow. -/
def Registry.Knows (r : Registry) (commandId : UInt8) (flow : Flow) : Prop :=
  ∃ entry, r.find? commandId = some entry ∧ entry.flow = flow

omit [Port π] in
/-- A request that may be sent has the flow that the registry gives it. -/
theorem Adapter.knows_of_examine {h : Host} {request : Request} {frame : DataFrame} {flow : Flow}
    (hexamined : examine h request = .ok (frame, flow)) :
    frame.commandId = request.commandId ∧ h.registry.Knows request.commandId flow := by
  unfold examine at hexamined
  split at hexamined
  · cases hexamined
  · next built hframe =>
    have hid := Request.commandId_of_toFrame hframe
    split at hexamined
    · cases hexamined
    split at hexamined
    · cases hexamined
    · next entry hentry =>
      cases hexamined
      exact ⟨hid, entry, hid ▸ hentry, rfl⟩

namespace Host

/-- The requests in flight and in line have the flows that the registry gives them. -/
structure Registered (h : Host) : Prop where
  inFlight : ∀ s, h.inFlight = some s → h.registry.Knows s.commandId s.flow
  waiting : ∀ e ∈ h.waiting, h.registry.Knows e.request.commandId e.flow

namespace Registered

variable {h : Host}

/-- Another request in flight, and other errands in line. -/
theorem replace (hr : h.Registered) {inFlight : Option Sequence} {waiting : List Errand}
    (hin : ∀ s, inFlight = some s → h.registry.Knows s.commandId s.flow)
    (hwaiting : ∀ e ∈ waiting, e ∈ h.waiting ∨ h.registry.Knows e.request.commandId e.flow) :
    ({ h with inFlight := inFlight, waiting := waiting } : Host).Registered where
  inFlight := hin
  waiting := by
    intro e he
    rcases hwaiting e he with hold | hnew
    · exact hr.waiting e hold
    · exact hnew

/-- A frame makes no other request of the one in flight. -/
theorem accept (hr : h.Registered) (frame : Frame) (l : Link π) :
    (Host.accept frame (l, h)).2.Registered := by
  have hin : ∀ t, (Host.accept frame (l, h)).2.inFlight = some t →
      h.registry.Knows t.commandId t.flow := by
    intro t ht
    cases hs : h.inFlight with
    | none =>
      rw [accept_inFlight_none frame l hs] at ht
      cases ht
    | some s =>
      obtain ⟨t', ht', hears⟩ := accept_hears frame l hs
      obtain rfl : t' = t := Option.some.inj (ht'.symm.trans ht)
      obtain ⟨hrequest, hflow⟩ := hears.belongs
      rw [hflow, Sequence.commandId, hrequest]
      exact hr.inFlight s hs
  obtain ⟨queue, inFlight, rejections, permit, heq⟩ := accept_eq frame l h
  rw [heq] at hin ⊢
  exact ⟨hin, hr.waiting⟩

omit [Port π] in
/-- The Soft Reset that follows a failed request is in the registry. -/
theorem conclude (hr : h.Registered) (e : Errand) (result : Except HostError Outcome) :
    (Adapter.conclude h e result).Registered := by
  unfold Adapter.conclude
  split
  · exact ⟨hr.inFlight, hr.waiting⟩
  · exact ⟨hr.inFlight, hr.waiting⟩
  · split
    · next reset hreset =>
      refine hr.replace hr.inFlight ?_
      intro e' he'
      rcases List.mem_append.mp he' with hold | hnew
      · exact .inl hold
      · right
        rw [List.mem_singleton.mp hnew]
        unfold recovery? at hreset
        split at hreset
        · split at hreset
          · next frame entry hframe hentry =>
            obtain rfl := Option.some.inj hreset
            refine ⟨entry, ?_, rfl⟩
            rw [Request.commandId_of_toFrame hframe]
            exact hentry
          · cases hreset
        · cases hreset
    · exact ⟨hr.inFlight, hr.waiting⟩

theorem perform (hr : h.Registered) (now : Nat) (e : Errand) (l : Link π) {move : Move}
    (hmove : ∀ t, move = .transmit t → h.registry.Knows t.commandId t.flow) :
    (Adapter.perform now e ⟨l, h⟩ move).host.Registered := by
  cases move with
  | rest => exact hr
  | transmit t =>
    refine ⟨?_, hr.waiting⟩
    intro s hs
    obtain rfl : t = s := Option.some.inj hs
    exact hmove t rfl
  | finish result =>
    have hleft : ({ h with active := none, inFlight := none } : Host).Registered :=
      ⟨fun s hs => (by cases hs), hr.waiting⟩
    exact hleft.conclude e result

omit [Port π] in
/-- What is sent next is in the registry. -/
theorem knows_nextMove (hr : h.Registered) {now : Nat} {e : Errand} {t : Sequence}
    (hmove : h.nextMove? now = some (e, .transmit t)) : h.registry.Knows t.commandId t.flow := by
  have hstarted {s : Sequence} (hs : s.attemptMove = .transmit t)
      (hknows : h.registry.Knows s.commandId s.flow) : h.registry.Knows t.commandId t.flow := by
    obtain ⟨_, rfl⟩ := Sequence.start_eq_ok_iff.mp (Sequence.start_of_attemptMove hs)
    rw [Sequence.commandId, Sequence.enter_request, Sequence.enter_flow]
    exact hknows
  unfold nextMove? at hmove
  split at hmove
  · next x hactive =>
    split at hmove
    · have hmove := congrArg Prod.snd (Option.some.inj hmove)
      cases hs : h.inFlight with
      | none =>
        unfold Host.move at hmove
        rw [hs] at hmove
        cases hmove
      | some s =>
        obtain hfinish | ⟨hagain, _⟩ | ⟨hrest, _⟩ := move_cases now x hs
        · rw [hfinish] at hmove; cases hmove
        · rw [hagain] at hmove
          exact hstarted hmove (hr.inFlight s hs)
        · rw [hrest] at hmove; cases hmove
    · cases hmove
  · cases hmove
  · next e' rest hactive hwaiting =>
    have hmove := congrArg Prod.snd (Option.some.inj hmove)
    have hknows := hr.waiting e' (by rw [hwaiting]; exact List.mem_cons_self)
    exact hstarted hmove hknows

omit [Port π] in
theorem mover (hr : h.Registered) : h.mover.Registered := by
  unfold Host.mover
  split
  · next e rest hactive hwaiting =>
    refine hr.replace hr.inFlight ?_
    intro e' he'
    left
    rw [hwaiting]
    exact List.mem_cons_of_mem e he'
  · unfold Host.attend
    split
    · exact hr
    · exact ⟨hr.inFlight, hr.waiting⟩

omit [Port π] in
theorem closeQueue (hr : h.Registered) : (Adapter.closeQueue h).Registered := by
  obtain ⟨_, _, _, heq⟩ := closeQueue_eq h
  rw [heq]
  exact ⟨hr.inFlight, hr.waiting⟩

end Registered

end Host

namespace Moment

theorem registered_receive {m : Moment π} (hm : m.host.Registered) (bytes : List UInt8) :
    (m.after (.receive bytes)).host.Registered := by
  show (m.adapter.receive bytes).host.Registered
  unfold Adapter.receive
  by_cases hgone : m.adapter.host.lifetime = .gone
  · rw [if_pos hgone]
    exact hm
  · rw [if_neg hgone]
    exact Link.receive_preserves (P := Host.Registered) (fun frame l h hr => hr.accept frame l)
      bytes m.adapter.link m.adapter.host hm

theorem registered_look {m : Moment π} (hm : m.host.Registered) :
    (m.after .look).host.Registered := by
  show (m.after .look).adapter.host.Registered
  rw [look_adapter]
  cases hmove : m.host.nextMove? m.now with
  | none => exact hm
  | some next =>
    obtain ⟨e, move⟩ := next
    refine hm.mover.perform m.now e m.adapter.turnLink ?_
    intro t ht
    rw [ht] at hmove
    obtain ⟨_, _, heq⟩ := m.host.mover_eq
    rw [heq]
    exact hm.knows_nextMove hmove

theorem registered_send {m : Moment π} (hm : m.host.Registered) (request : Request) :
    (m.after (.send request)).host.Registered := by
  show (m.adapter.send request).2.host.Registered
  unfold Adapter.send
  dsimp only
  split
  · exact ⟨hm.inFlight, hm.waiting⟩
  · next frame flow hexamined =>
    refine ⟨hm.inFlight, ?_⟩
    intro e he
    rcases List.mem_append.mp he with hold | hnew
    · exact hm.waiting e hold
    · rw [List.mem_singleton.mp hnew]
      obtain ⟨hid, hknows⟩ := knows_of_examine hexamined
      show m.host.registry.Knows frame.commandId flow
      rw [hid]
      exact hknows

/-- **Every event keeps the requests registered.** -/
theorem registered_after {m : Moment π} (hm : m.host.Registered) (event : Event π) :
    (m.after event).host.Registered := by
  cases event with
  | receive bytes => exact registered_receive hm bytes
  | look => exact registered_look hm
  | send request => exact registered_send hm request
  | start =>
    obtain ⟨_, _, heq⟩ := m.start_host_eq
    rw [heq]
    exact ⟨hm.inFlight, hm.waiting⟩
  | beginStart =>
    obtain ⟨_, _, heq⟩ := m.beginStart_host_eq
    rw [heq]
    exact ⟨hm.inFlight, hm.waiting⟩
  | endStart =>
    have hclosed := Host.Registered.closeQueue hm
    rcases m.endStart_host_eq with heq | heq
    · rw [heq]
      exact hm
    · rw [heq]
      exact ⟨hclosed.inFlight, hclosed.waiting⟩
  | endWait ticket => exact hm
  | stop =>
    show m.adapter.stop.2.host.Registered
    unfold Adapter.stop
    split
    · have hclosed : (closeQueue { m.adapter.host with running := false }).Registered :=
        Host.Registered.closeQueue ⟨hm.inFlight, hm.waiting⟩
      refine ⟨?_, hclosed.waiting⟩
      intro t ht
      obtain ⟨s, hs, rfl⟩ := Option.map_eq_some_iff.mp ht
      rw [Sequence.commandId, Sequence.fail, Sequence.enter_request, Sequence.enter_flow]
      exact hclosed.inFlight s hs
    · exact hm
  | abandon ticket =>
    refine ⟨hm.inFlight, ?_⟩
    intro e he
    exact hm.waiting e (List.mem_filter.mp he).1
  | release =>
    show m.adapter.release.host.Registered
    unfold Adapter.release
    split
    · exact ⟨hm.inFlight, hm.waiting⟩
    · exact hm
  | expire =>
    show m.adapter.expire.host.Registered
    rcases m.adapter.expire_host_eq with heq | ⟨_, _, _, _, _, heq⟩
    · rw [heq]
      exact hm
    · rw [heq]
      exact ⟨hm.inFlight, hm.waiting⟩
  | dispatch =>
    show m.host.deliverNext.Registered
    obtain ⟨queue, subscriptions, outbox, heq⟩ := m.host.deliverNext_eq
    rw [heq]
    exact ⟨hm.inFlight, hm.waiting⟩
  | pass milliseconds => exact hm
  | port change => exact hm
  | subscribe kind accepts => exact ⟨hm.inFlight, hm.waiting⟩
  | unsubscribe handle => exact ⟨hm.inFlight, hm.waiting⟩
  | nextSession => exact ⟨hm.inFlight, hm.waiting⟩

theorem Reachable.registered {m : Moment π} (hm : m.Reachable) : m.host.Registered :=
  hm.induction (P := fun m => m.host.Registered)
    (fun _ _ _ _ _ => ⟨fun _ hs => (by cases hs), fun _ he => (by cases he)⟩)
    (fun _ event h => registered_after h event)

end Moment

end ZWaveHost
