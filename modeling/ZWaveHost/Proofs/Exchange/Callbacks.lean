/-
  ZWaveHost.Proofs.Exchange.Callbacks — the callback that completes a request.

  A callback is handed to the request in flight by its command id.  One that
  is waited for completes the request, and one that comes too early makes it
  fail.  So whatever completes a request is the first callback of its command
  that has been heard since the request was last sent.

  Main facts: every frame keeps this (`CalledBackByFirst.accept`), and so does
  every event, as long as the turn lasts (`Turn.after`).
-/
import ZWaveHost.Proofs.Exchange.Course
import ZWaveHost.Proofs.Run.Isolation

namespace ZWaveHost

open Adapter

variable {π : Type} [Port π]

/-! ## §1. Callbacks -/

namespace Host

/-- The command in a frame that is a callback of the command with this id. -/
def callback? (h : Host) (commandId : UInt8) : Frame → Option Command
  | .data f =>
    if f.isValid = true ∧ f.kind = .request ∧ f.commandId = commandId then
      (h.read? f).map Prod.snd
    else none
  | _ => none

variable {h h' : Host} {commandId : UInt8} {frame : Frame} {command : Command}

theorem callback?_eq_some_iff : h.callback? commandId frame = some command
    ↔ ∃ f entry, frame = .data f ∧ f.isValid = true ∧ f.kind = .request
      ∧ f.commandId = commandId ∧ h.read? f = some (entry, command) := by
  constructor
  · intro hcallback
    cases frame with
    | data f =>
      obtain ⟨⟨hvalid, hkind, hid⟩, hcommand⟩ := Option.ite_none_right_eq_some.mp hcallback
      obtain ⟨⟨entry, _⟩, hread, rfl⟩ := Option.map_eq_some_iff.mp hcommand
      exact ⟨f, entry, rfl, hvalid, hkind, hid, hread⟩
    | _ => cases hcallback
  · rintro ⟨f, entry, rfl, hvalid, hkind, hid, hread⟩
    show ite _ _ _ = _
    rw [if_pos ⟨hvalid, hkind, hid⟩, hread]
    rfl

/-- The registry alone says what is a callback. -/
theorem callback?_congr (hregistry : h'.registry = h.registry) (commandId : UInt8) :
    h'.callback? commandId = h.callback? commandId := by
  funext frame
  cases frame with
  | data f =>
    show ite _ _ _ = ite _ _ _
    unfold read?
    rw [hregistry]
  | _ => rfl

end Host

/-! ## §2. The first of them -/

/-- A sequence whose fate is decided by the first callback among the frames
    heard since it was last sent. -/
structure Sequence.CalledBackByFirst (h : Host) (heard : List Frame) (s : Sequence) : Prop where
  waits : s.isTerminal = false → heard.findSome? (h.callback? s.commandId) = none
  complete : s.state = .complete →
    ∃ command, s.callback = some command ∧ heard.findSome? (h.callback? s.commandId) = some command

namespace Host

variable {h : Host} {s : Sequence} {frame : Frame}

/-- **A callback is handed to the request in flight**, waited for or not. -/
theorem accept_callback (hs : h.inFlight = some s) (hopen : s.isTerminal = false)
    (hknows : h.registry.Knows s.commandId s.flow) (hflow : s.flow.hasCallback = true)
    {command : Command} (hcallback : h.callback? s.commandId frame = some command) (l : Link π) :
    ∃ t, (accept frame (l, h)).2.inFlight = some t
      ∧ (s.updateCallback command = .ok t ∨ t = s.fail) := by
  obtain ⟨f, entry, rfl, hvalid, hkind, hid, hread⟩ := callback?_eq_some_iff.mp hcallback
  -- the entry that the frame is read by is the one that the request was sent by
  have hentry : entry.flow.hasCallback = true := by
    obtain ⟨found, hfound, hsame⟩ := hknows
    have hentry := (read?_eq_some_iff.mp hread).1
    rw [hid, hfound] at hentry
    rw [← Option.some.inj hentry, hsame]
    exact hflow
  obtain ⟨_, hdropped | hdropped⟩ | ⟨queue, entry', command', _, hread', heq⟩ :=
    acceptData_eq f l h
  · rw [hvalid] at hdropped
    cases hdropped
  · rw [hread] at hdropped
    cases hdropped
  · cases hread.symm.trans hread'
    show ∃ t, (acceptData f (l, h)).2.inFlight = some t ∧ _
    have hmine : (decide (s.commandId ≠ f.commandId) || s.isTerminal) = false := by
      rw [hid, hopen]
      simp
    rw [heq]
    unfold route
    simp only [hs, hmine, hkind, hentry, Bool.false_eq_true, if_false, if_true]
    cases hok : s.updateCallback command with
    | ok t => exact ⟨t, rfl, .inl rfl⟩
    | error fault => exact ⟨s.fail, rfl, .inr rfl⟩

end Host

namespace Sequence.CalledBackByFirst

variable {h₀ h : Host} {heard : List Frame} {s t : Sequence}

theorem congr {h' : Host} (hs : s.CalledBackByFirst h heard)
    (hregistry : h'.registry = h.registry) : s.CalledBackByFirst h' heard := by
  refine ⟨fun hopen => ?_, fun hstate => ?_⟩
  · rw [Host.callback?_congr hregistry]
    exact hs.waits hopen
  · rw [Host.callback?_congr hregistry]
    exact hs.complete hstate

theorem fail (h : Host) (heard : List Frame) (s : Sequence) :
    s.fail.CalledBackByFirst h heard where
  waits hopen := by
    rw [isTerminal, Sequence.fail, enter_state] at hopen
    cases hopen
  complete hstate := by
    rw [Sequence.fail, enter_state] at hstate
    cases hstate

/-- A request that has just been sent, in a flow with a callback. -/
theorem of_sent {e : Errand} (hs : s.Follows e h₀ []) (hflow : e.flow.hasCallback = true) :
    s.CalledBackByFirst h₀ [] where
  waits _ := rfl
  complete hstate := by
    obtain ⟨_, _, _, _, hmem, _⟩ := hs.callback hstate hflow
    cases hmem

/-- A frame that is no callback of its command does not complete such a request. -/
theorem hears_other {frame : Frame} (hs : s.CalledBackByFirst h heard)
    (hflow : s.flow.hasCallback = true) (hopen : s.isTerminal = false)
    (hnone : h.callback? s.commandId frame = none) (hh : h.Hears s frame t) :
    t.CalledBackByFirst h (heard ++ [frame]) := by
  have hid : t.commandId = s.commandId := congrArg DataFrame.commandId hh.belongs.1
  have hstill : (heard ++ [frame]).findSome? (h.callback? t.commandId) = none := by
    rw [hid, List.findSome?_append, hs.waits hopen, List.findSome?_singleton, hnone]
    rfl
  refine ⟨fun _ => hstill, fun hcomplete => absurd hcomplete ?_⟩
  cases hh with
  | ignored htakes =>
    intro hstate
    rw [isTerminal, hstate] at hopen
    cases hopen
  | acknowledged hok =>
    obtain ⟨_, next, hafter, rfl⟩ := acknowledge_eq_ok_iff.mp hok
    rw [enter_state]
    intro hstate
    rw [(Flow.direct_afterAck? hafter).callback hstate] at hflow
    cases hflow
  | answered hvalid hkind hid hread hok =>
    obtain ⟨_, next, hafter, rfl⟩ := updateResponse_eq_ok_iff.mp hok
    rw [enter_state]
    rcases (Flow.afterResponse?_cases hafter).2 with rfl | ⟨_, hnever⟩
    · decide
    · rw [hnever] at hflow
      cases hflow
  | calledBack hvalid hkind hid hread hok =>
    rw [Host.callback?_eq_some_iff.mpr ⟨_, _, rfl, hvalid, hkind, hid, hread⟩] at hnone
    cases hnone
  | failed hopen =>
    rw [Sequence.fail, enter_state]
    decide

/-- **Every frame leaves it to the first callback.** -/
theorem accept (hs : s.CalledBackByFirst h heard) (hflight : h.inFlight = some s)
    (hknows : h.registry.Knows s.commandId s.flow) (hflow : s.flow.hasCallback = true)
    (frame : Frame) (l : Link π) (ht : (Host.accept frame (l, h)).2.inFlight = some t) :
    t.CalledBackByFirst h (heard ++ [frame]) := by
  obtain ⟨t', ht', hears⟩ := Host.accept_hears frame l hflight
  obtain rfl : t' = t := Option.some.inj (ht'.symm.trans ht)
  by_cases hover : s.isTerminal = true
  · -- nothing changes any more, and a complete request has had its callback
    rw [hears.eq_of_isTerminal hover]
    refine ⟨fun hopen => absurd hover (Bool.eq_false_iff.mp hopen), fun hstate => ?_⟩
    obtain ⟨command, hheld, hfirst⟩ := hs.complete hstate
    exact ⟨command, hheld, by rw [List.findSome?_append, hfirst, Option.some_or]⟩
  · have hopen : s.isTerminal = false := Bool.eq_false_iff.mpr hover
    cases hcallback : h.callback? s.commandId frame with
    | none => exact hs.hears_other hflow hopen hcallback hears
    | some command =>
      obtain ⟨u, hu, hok | rfl⟩ := Host.accept_callback hflight hopen hknows hflow hcallback l
      · obtain rfl : u = t' := Option.some.inj (hu.symm.trans ht)
        obtain ⟨_, _, rfl⟩ := updateCallback_eq_ok_iff.mp hok
        have hid : (({ s with callback := some command } : Sequence).enter .complete).commandId
            = s.commandId := congrArg DataFrame.commandId (enter_request _ .complete)
        refine ⟨fun hterminal => ?_, fun _ => ⟨command, enter_callback _ .complete, ?_⟩⟩
        · rw [isTerminal, enter_state] at hterminal
          cases hterminal
        · rw [hid, List.findSome?_append, hs.waits hopen, List.findSome?_singleton]
          exact hcallback
      · obtain rfl : s.fail = t' := Option.some.inj (hu.symm.trans ht)
        exact .fail _ _ _

end Sequence.CalledBackByFirst

/-! ## §3. Turns -/

/-- What is kept of a turn beside its exchange: nothing else has been sent since
    it began, and the first callback decides. -/
structure Turn (e : Errand) (h₀ : Host) (log : List Happening) (h : Host) (x : Exchange)
    (s : Sequence) : Prop extends Underway e h₀ log h x s where
  own : ∀ now e' frame, .transmitted now e' frame ∈ log → e' = e ∧ frame = e.request
  decided : e.flow.hasCallback = true → s.CalledBackByFirst h₀ (heardSince log)

/-- A caller that still has the turn is still under way. -/
theorem Underway.after {e : Errand} {h₀ : Host} {log : List Happening} {m : Moment π}
    {x y : Exchange} {s : Sequence} {event : Event π} (hu : Underway e h₀ log m.host x s)
    (hspares : event.Spares e.ticket) (hactive : (m.after event).host.active = some y) :
    ∃ t, Underway e h₀ (log ++ m.happenings event) (m.after event).host y t := by
  cases hu.continues hspares with
  | waits t ht _ _ =>
    obtain rfl := Option.some.inj (ht.active.symm.trans hactive)
    exact ⟨t, ht⟩
  | transmits x' t _ ht _ _ =>
    obtain rfl := Option.some.inj (ht.active.symm.trans hactive)
    exact ⟨t, ht⟩
  | ends o _ _ hend =>
    rw [hend.active_eq] at hactive
    cases hactive

namespace Turn

variable {e : Errand} {h₀ h h' : Host} {log : List Happening} {m : Moment π} {x y : Exchange}
  {s : Sequence}

theorem of_agrees (ht : Turn e h₀ log h x s) (ha : h.Agrees h') : Turn e h₀ log h' x s :=
  { ht with toUnderway := ht.toUnderway.of_agrees ha }

theorem failInFlight (ht : Turn e h₀ log h x s) : Turn e h₀ log (failInFlight h) x s.fail :=
  { ht with
    toUnderway := ht.toUnderway.failInFlight
    decided := fun _ => .fail _ _ _ }

/-- After a transmission nothing has been decided. -/
theorem of_sent (log : List Happening) {now : Nat} {frame : DataFrame}
    (hu : Underway e h₀ (log ++ [.transmitted now e frame]) h x s)
    (hown : ∀ now e' frame, .transmitted now e' frame ∈ log → e' = e ∧ frame = e.request)
    (hframe : frame = e.request) : Turn e h₀ (log ++ [.transmitted now e frame]) h x s where
  toUnderway := hu
  own now' e' frame' hmem := by
    rcases List.mem_append.mp hmem with hold | hnew
    · exact hown now' e' frame' hold
    · cases List.mem_singleton.mp hnew
      exact ⟨rfl, hframe⟩
  decided hflow := by
    have hsince : heardSince (log ++ [.transmitted now e frame]) = [] := heardSince_append log _
    have hfollows := hu.follows
    rw [hsince] at hfollows ⊢
    exact .of_sent hfollows hflow

/-- **A turn begins** with a transmission. -/
theorem begin {rest : List Errand} (hactive : m.host.active = none)
    (hwaiting : m.host.waiting = e :: rest) :
    ∃ x s, Turn e m.host (m.happenings .look) (m.after .look).host x s := by
  obtain ⟨x, s, hu⟩ := Underway.begin hactive hwaiting
  have hlog := (Moment.look_of_waiting hactive hwaiting).2
  rw [Sequence.attemptMove_fresh] at hlog
  rw [hlog] at hu ⊢
  have hnone (now : Nat) (e' : Errand) (frame : DataFrame)
      (hmem : .transmitted now e' frame ∈ ([] : List Happening)) :
      e' = e ∧ frame = e.request := by cases hmem
  exact ⟨x, s, of_sent [] hu hnone (Sequence.enter_request _ _)⟩

/-- A frame leaves the turn as it is. -/
theorem accept (ht : Turn e h₀ log h x s) (hr : h.Registered) (frame : Frame) (l : Link π) :
    ∃ t, Turn e h₀ (log ++ [.heard frame (h.takes frame)]) (Host.accept frame (l, h)).2 x t := by
  obtain ⟨t, hu⟩ := ht.toUnderway.accept frame l
  refine ⟨t, hu, fun now e' frame' hmem => ?_, fun hflow => ?_⟩
  · rcases List.mem_append.mp hmem with hold | hnew
    · exact ht.own now e' frame' hold
    · cases List.mem_singleton.mp hnew
  · have hsince : heardSince (log ++ [.heard frame (h.takes frame)]) = heardSince log ++ [frame] :=
      heardSince_append log _
    have hmine : s.flow.hasCallback = true := by
      rw [ht.follows.flow]
      exact hflow
    have hdecided := ((ht.decided hflow).congr ht.registry).accept ht.inFlight
      (hr.inFlight s ht.inFlight) hmine frame l hu.inFlight
    rw [hsince]
    exact hdecided.congr ht.registry.symm

/-- **A chunk leaves the turn as it is.** -/
theorem receive {a : Adapter π} (ht : Turn e h₀ log a.host x s) (hr : a.host.Registered)
    (bytes : List UInt8) : ∃ t, Turn e h₀ (log ++ a.heard bytes) (a.receive bytes).host x t := by
  suffices hkept : (a.receive bytes).host.Registered
      ∧ ∃ t, Turn e h₀ (log ++ a.heard bytes) (a.receive bytes).host x t from hkept.2
  refine Adapter.receive_induction
    (P := fun h log' => h.Registered ∧ ∃ t, Turn e h₀ log' h x t) bytes ⟨hr, s, ht⟩ ?_
  rintro frame l h log' ⟨hr, _, ht⟩
  exact ⟨hr.accept frame l, ht.accept hr frame l⟩

/-- **A look keeps the turn**, or ends it. -/
theorem look (ht : Turn e h₀ log m.host x s) (hactive : (m.after .look).host.active = some y) :
    ∃ t, Turn e h₀ (log ++ m.happenings .look) (m.after .look).host y t := by
  have hstill (hagrees : m.host.Agrees (m.after .look).host) (hlog : m.happenings .look = []) :
      ∃ t, Turn e h₀ (log ++ m.happenings .look) (m.after .look).host y t := by
    obtain rfl : x = y := Option.some.inj (ht.active.symm.trans (hagrees.active.symm.trans hactive))
    rw [hlog, List.append_nil]
    exact ⟨s, ht.of_agrees hagrees⟩
  have hspares : (Event.look : Event π).Spares e.ticket := trivial
  cases hmove : m.host.nextMove? m.now with
  | none =>
    obtain ⟨hafter, hlog⟩ := Moment.look_of_none hmove
    exact hstill (by rw [hafter]; exact .refl m.host) hlog
  | some next =>
    obtain ⟨e', move⟩ := next
    obtain ⟨hafter, hlog⟩ := Moment.look_of_nextMove hmove
    obtain ⟨rfl, _⟩ := Host.nextMove?_of_active ht.active hmove
    cases move with
    | rest =>
      obtain ⟨_, _, hmover⟩ := m.host.mover_eq
      refine hstill ?_ hlog
      rw [hafter]
      show m.host.Agrees m.host.mover
      rw [hmover]
      exact ⟨rfl, rfl, rfl, rfl, rfl, rfl⟩
    | transmit t =>
      obtain ⟨t', hu⟩ := ht.toUnderway.after hspares hactive
      have hlog : m.happenings .look = [.transmitted m.now e t.request] := by
        rw [hlog, ← ht.errand]
        rfl
      have hsent : (m.after .look).host.inFlight = some t := by
        rw [hafter]
        rfl
      obtain rfl : t' = t := Option.some.inj (hu.inFlight.symm.trans hsent)
      have hframe := hu.follows.request
      rw [hlog] at hu ⊢
      exact ⟨t', of_sent log hu ht.own hframe⟩
    | finish result =>
      -- nobody has the turn afterwards
      rw [hafter] at hactive
      cases (conclude_active _ x.errand result).symm.trans hactive

/-- **Every event keeps the turn**, as long as it lasts. -/
theorem after (ht : Turn e h₀ log m.host x s) (hr : m.host.Registered) {event : Event π}
    (hspares : event.Spares e.ticket) (hactive : (m.after event).host.active = some y) :
    ∃ t, Turn e h₀ (log ++ m.happenings event) (m.after event).host y t := by
  have hsame {h : Host} (hholds : h.active = some x) (hagrees : h.Agrees (m.after event).host) :
      x = y := Option.some.inj (hholds.symm.trans (hagrees.active.symm.trans hactive))
  by_cases hbystander : event.IsBystander
  · rw [← ht.errand] at hspares
    obtain ⟨hagrees, hlog⟩ := m.agrees_after ht.active hbystander hspares
    obtain rfl := hsame ht.active hagrees
    rw [hlog, List.append_nil]
    exact ⟨s, ht.of_agrees hagrees⟩
  · cases event with
    | receive bytes =>
      obtain ⟨t, hnext⟩ := ht.receive hr bytes
      obtain rfl : x = y := Option.some.inj (hnext.active.symm.trans hactive)
      exact ⟨t, hnext⟩
    | look => exact ht.look hactive
    | stop =>
      have hlog : log ++ m.happenings .stop = log := List.append_nil log
      rw [hlog]
      rcases m.agrees_stop with hagrees | hagrees
      · obtain rfl := hsame ht.active hagrees
        exact ⟨s, ht.of_agrees hagrees⟩
      · obtain rfl := hsame ht.failInFlight.active hagrees
        exact ⟨s.fail, ht.failInFlight.of_agrees hagrees⟩
    | _ => exact absurd trivial hbystander

end Turn

end ZWaveHost
