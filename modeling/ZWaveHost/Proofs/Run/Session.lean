/-
  ZWaveHost.Proofs.Run.Session — from a start to the next stop.

  A session begins with a start that succeeds, or with the first half of one
  whose NAK has to wait, and goes on as long as the adapter is running
  (`Session`).  Whatever happens meanwhile, commands are conserved
  (`Session.conserves`).

  Main statement: every command that finds room in the queue reaches the
  subscribers, once and in order, and a stop hands over what still waits
  (`commands_reach_subscribers`).
-/
import ZWaveHost.Proofs.Link.Opening
import ZWaveHost.Proofs.Run.Invariant
import ZWaveHost.Proofs.Run.Queue

namespace ZWaveHost

variable {π : Type} [Port π]

/-! ## §1. Starts -/

namespace Adapter

variable {a : Adapter π}

/-- An adapter that is running is not started. -/
theorem openUp_of_running (hrunning : a.host.running = true) :
    a.openUp = some (.error .alreadyRunning, a) := by
  unfold openUp
  rw [if_pos hrunning]

/-- One that is not opens its port, and runs if that succeeds. -/
theorem openUp_of_stopped (hstopped : a.host.running = false)
    (hcapacity : a.host.config.dispatchCapacity.toNat ≤ maxQueueCapacity) :
    let opened := Port.openWithin a.host.config.openTimeout a.link.port
    (opened.1 = .ok true → a.openUp = some (.ok true,
      ⟨{ a.link with port := opened.2 }, { a.host with running := true, queue := some [] }⟩))
    ∧ (opened.1 ≠ .ok true → a.openUp = some (opened.1,
      ⟨{ a.link with port := opened.2 }, { a.host with running := false, queue := none }⟩)) := by
  intro opened
  have hidle : ¬ a.host.running = true := Bool.eq_false_iff.mp hstopped
  have hfits : ¬ a.host.config.dispatchCapacity.toNat > maxQueueCapacity :=
    Nat.not_lt.mpr hcapacity
  unfold openUp
  rw [if_neg hidle, if_neg hfits]
  rcases hopened : Port.openWithin a.host.config.openTimeout a.link.port with ⟨result, port⟩
  have hresult : opened = (result, port) := hopened
  rw [hresult]
  constructor
  · intro hok
    obtain rfl : result = .ok true := hok
    rfl
  · intro hno
    split
    · next heq =>
      cases heq
      exact absurd rfl hno
    · next heq =>
      cases heq
      rfl

/-- A start that is answered has found the queue it wants short enough. -/
theorem capacity_of_openUp (hstopped : a.host.running = false)
    (hanswered : a.openUp.isSome = true) :
    a.host.config.dispatchCapacity.toNat ≤ maxQueueCapacity := by
  refine Nat.not_lt.mp fun hlong => ?_
  unfold openUp at hanswered
  rw [if_neg (Bool.eq_false_iff.mp hstopped), if_pos hlong] at hanswered
  cases hanswered

/-- A start panics where its first half does. -/
theorem isSome_start : a.start.isSome = a.openUp.isSome := by
  unfold start
  split
  · next opened hopened => rw [hopened]; rfl
  · rfl

theorem isSome_beginStart : a.beginStart.isSome = a.openUp.isSome := by
  unfold beginStart
  split
  · next opened hopened => rw [hopened]; rfl
  · rfl

theorem start_of_running (hrunning : a.host.running = true) :
    a.start = some (.error .alreadyRunning, a) := by
  unfold start
  rw [openUp_of_running hrunning]

theorem beginStart_of_running (hrunning : a.host.running = true) :
    a.beginStart = some (.error .alreadyRunning, a) := by
  unfold beginStart
  rw [openUp_of_running hrunning]

/-- **A start of an adapter that is not running** opens its link, and the
    session begins if that succeeds. -/
theorem start_of_stopped (hstopped : a.host.running = false)
    (hcapacity : a.host.config.dispatchCapacity.toNat ≤ maxQueueCapacity) :
    let opened := a.link.openPort a.host.config.openTimeout
    (opened.1 = .ok true → a.start
      = some (.ok true, ⟨opened.2, { a.host with running := true, queue := some [] }⟩))
    ∧ (opened.1 ≠ .ok true → a.start
      = some (opened.1, ⟨opened.2, { a.host with running := false, queue := none }⟩)) := by
  obtain ⟨hopens, hstays⟩ := openUp_of_stopped hstopped hcapacity
  have hcases := a.link.openPort_cases a.host.config.openTimeout
  generalize a.link.openPort a.host.config.openTimeout = answered at hcases ⊢
  intro opened
  cases hcases with
  | unopened hno =>
    refine ⟨fun hok => absurd hok hno, fun _ => ?_⟩
    unfold start
    rw [hstays hno]
    split
    · next heq => exact absurd (Prod.mk.inj (Option.some.inj heq)).1 hno
    · rfl
  | announced hopened hsent =>
    refine ⟨fun _ => ?_, fun hno => absurd rfl hno⟩
    rw [a.start_of_opened (hopens hopened)]
    dsimp only
    rw [hsent]
    rfl
  | unannounced hopened hsent =>
    refine ⟨fun hok => (by cases hok), fun _ => ?_⟩
    rw [a.start_of_opened (hopens hopened)]
    dsimp only
    rw [hsent]
    rfl

end Adapter

/-! ## §2. Sessions -/

/-- What is noted of an event. -/
def Moment.queueNotes (m : Moment π) : Event π → List (QueueNote π)
  | .receive bytes => m.adapter.queueNotes bytes
  | .dispatch =>
    match m.host.queue with
    | some (command :: _) => [.handed command (m.host.subscriptions.offers command)]
    | _ => []
  | _ => []

/-- A start that succeeds, or has only its NAK left to send, and what happens
    until the adapter stops running. -/
inductive Session (m₀ : Moment π) : List (QueueNote π) → Moment π → Prop
  | started (hok : m₀.adapter.start.map Prod.fst = some (.ok true)) :
    Session m₀ [] (m₀.after .start)
  | opened (hok : m₀.adapter.beginStart.map Prod.fst = some (.ok true)) :
    Session m₀ [] (m₀.after .beginStart)
  | next {log : List (QueueNote π)} {m : Moment π} (event : Event π) (hsession : Session m₀ log m)
      (hruns : (m.after event).host.running = true) :
      Session m₀ (log ++ m.queueNotes event) (m.after event)

/-! ## §3. Events -/

namespace Moment

variable {m : Moment π} {capacity : Nat} {dropped : UInt64}
  {delivered : List (Subscription.Handle × Command)} {log : List (QueueNote π)}

/-- A caller that takes a step leaves the queue alone. -/
theorem conserves_look
    (hc : Conserves capacity dropped delivered log (m.adapter.link, m.adapter.host)) :
    Conserves capacity dropped delivered log
      ((m.after .look).adapter.link, (m.after .look).adapter.host) := by
  have hturn : m.adapter.turnLink.received.dropped = m.adapter.link.received.dropped :=
    Adapter.turnLink_rec (P := fun l => l.received.dropped = m.adapter.link.received.dropped) rfl
      fun ticket => congrArg (·.dropped) (m.adapter.link.afterWait_received (.caller ticket))
  have hmover : Conserves capacity dropped delivered log (m.adapter.turnLink, m.host.mover) := by
    obtain ⟨_, _, heq⟩ := m.host.mover_eq
    rw [heq]
    exact hc.replace rfl rfl rfl hturn
  rw [look_adapter]
  cases m.host.nextMove? m.now with
  | none => exact hc.replace rfl rfl rfl hturn
  | some next =>
    obtain ⟨e, move⟩ := next
    cases move with
    | rest => exact hmover
    | transmit s =>
      exact hmover.replace rfl rfl (Host.deliveries_report rfl _)
        (congrArg (·.dropped) (m.adapter.turnLink.post_received _ (.data s.request)))
    | finish result =>
      let h := m.host.left
      obtain ⟨_, _, heq⟩ := Adapter.conclude_eq h e result
      have hconfig : (Adapter.conclude h e result).config = h.config := by rw [heq]
      have hqueue : (Adapter.conclude h e result).queue = h.queue := by rw [heq]
      exact hmover.replace hconfig hqueue (Host.deliveries_conclude h e result) rfl

/-- **Every event of a session conserves commands.** -/
theorem conserves_after (hl : m.adapter.link.Balanced) (hrunning : m.host.running = true)
    (hc : Conserves capacity dropped delivered log (m.adapter.link, m.adapter.host))
    (event : Event π) (hruns : (m.after event).host.running = true) :
    Conserves capacity dropped delivered (log ++ m.queueNotes event)
      ((m.after event).adapter.link, (m.after event).adapter.host) := by
  have hunnoted {s : Link π × Host} (hs : Conserves capacity dropped delivered log s) :
      Conserves capacity dropped delivered (log ++ []) s := (List.append_nil log).symm ▸ hs
  have hrunning : m.adapter.host.running = true := hrunning
  cases event with
  | receive bytes => exact Adapter.receive_conserves hl hc bytes
  | look => exact hunnoted (conserves_look hc)
  | dispatch =>
    obtain ⟨queue, hqueue, _⟩ := hc.queue
    have hqueue : m.host.queue = some queue := hqueue
    show Conserves _ _ _ (log ++ m.queueNotes .dispatch) (m.adapter.link, m.host.deliverNext)
    unfold queueNotes
    cases queue with
    | nil =>
      have hstill : m.host.deliverNext = m.host := by
        unfold Host.deliverNext
        rw [hqueue]
      rw [hqueue, hstill]
      exact hunnoted hc
    | cons command rest =>
      rw [hqueue]
      exact hc.hand hqueue
  | start =>
    have hsame : (m.after .start).adapter = m.adapter := by
      show (m.adapter.start.map Prod.snd).getD m.adapter = m.adapter
      rw [Adapter.start_of_running hrunning]
      rfl
    rw [hsame]
    exact hunnoted hc
  | beginStart =>
    have hsame : (m.after .beginStart).adapter = m.adapter := by
      show (m.adapter.beginStart.map Prod.snd).getD m.adapter = m.adapter
      rw [Adapter.beginStart_of_running hrunning]
      rfl
    rw [hsame]
    exact hunnoted hc
  | endStart =>
    have hlink : (m.after .endStart).adapter.link.received = m.adapter.link.received :=
      withAdapter?_rec (P := fun a => a.link.received = m.adapter.link.received) rfl
        fun _ a hended => by
          rw [m.adapter.endStart?_link_eq hended]
          exact m.adapter.link.afterWait_received .starter
    have hlink := congrArg (·.dropped) hlink
    rcases m.endStart_host_eq with heq | heq
    · have hhost : (m.after .endStart).adapter.host = m.adapter.host := heq
      rw [hhost]
      exact hunnoted (hc.replace rfl rfl rfl hlink)
    · -- a start that has failed would end the session
      rw [heq] at hruns
      cases hruns
  | endWait ticket =>
    exact hunnoted (hc.replace rfl rfl rfl
      (congrArg (·.dropped) (m.adapter.link.afterWait_received (.caller ticket))))
  | stop =>
    -- a stop would end the session
    obtain ⟨_, _, _, heq⟩ := Adapter.closeQueue_eq { m.adapter.host with running := false }
    have hends : m.adapter.stop.2.host.running = false := by
      unfold Adapter.stop
      rw [if_pos hrunning]
      exact congrArg Host.running heq
    exact absurd (hends.symm.trans hruns) Bool.false_ne_true
  | expire =>
    by_cases hgoes : m.adapter.host.lifetime = .released ∧ m.adapter.host.active.isNone
        ∧ m.adapter.host.waiting.isEmpty
    · -- so would the end of the adapter
      obtain ⟨_, _, _, heq⟩ := Adapter.closeQueue_eq
        { m.adapter.host with lifetime := .gone, running := false }
      have hends : m.adapter.expire.host.running = false := by
        unfold Adapter.expire
        dsimp only
        rw [if_pos hgoes, if_pos hrunning]
        exact congrArg Host.running heq
      exact absurd (hends.symm.trans hruns) Bool.false_ne_true
    · have hstill : m.adapter.expire = m.adapter := if_neg hgoes
      have hsame : m.after .expire = m := congrArg (Moment.mk m.now) hstill
      rw [hsame]
      exact hunnoted hc
  | send request =>
    refine hunnoted ?_
    show Conserves _ _ _ _ (m.adapter.link, (m.adapter.send request).2.host)
    unfold Adapter.send
    dsimp only
    split
    · exact hc.replace rfl rfl (Host.deliveries_report rfl _) rfl
    · exact hc.replace rfl rfl rfl rfl
  | release =>
    refine hunnoted ?_
    show Conserves _ _ _ _ (m.adapter.release.link, m.adapter.release.host)
    unfold Adapter.release
    split
    · exact hc.replace rfl rfl rfl rfl
    · exact hc
  | pass milliseconds => exact hunnoted hc
  | port change => exact hunnoted (hc.replace rfl rfl rfl rfl)
  | abandon ticket => exact hunnoted (hc.replace rfl rfl rfl rfl)
  | subscribe kind accepts => exact hunnoted (hc.replace rfl rfl rfl rfl)
  | unsubscribe handle => exact hunnoted (hc.replace rfl rfl rfl rfl)
  | nextSession => exact hunnoted (hc.replace rfl rfl rfl rfl)

end Moment

namespace Session

variable {m₀ m : Moment π} {log : List (QueueNote π)}

/-- A start that succeeds leaves the adapter running, with an empty queue. -/
theorem start_eq (hok : m₀.adapter.start.map Prod.fst = some (.ok true)) :
    (m₀.after .start).host = { m₀.host with running := true, queue := some [] }
      ∧ (m₀.after .start).adapter.link.received = m₀.adapter.link.received := by
  obtain ⟨⟨result, b⟩, hstart, hresult⟩ := Option.map_eq_some_iff.mp hok
  obtain rfl : result = .ok true := hresult
  have hstopped : m₀.adapter.host.running = false := by
    refine Bool.eq_false_iff.mpr fun hrunning => ?_
    rw [Adapter.start_of_running hrunning] at hstart
    cases hstart
  have hanswered : m₀.adapter.openUp.isSome = true := by
    rw [← Adapter.isSome_start, hstart]
    rfl
  obtain ⟨hstarts, hfails⟩ :=
    Adapter.start_of_stopped hstopped (Adapter.capacity_of_openUp hstopped hanswered)
  have hopened : (m₀.adapter.link.openPort m₀.adapter.host.config.openTimeout).1 = .ok true := by
    by_contra hno
    rw [hfails hno] at hstart
    exact hno (congrArg Prod.fst (Option.some.inj hstart))
  show ((m₀.adapter.start.map Prod.snd).getD m₀.adapter).host = _
    ∧ ((m₀.adapter.start.map Prod.snd).getD m₀.adapter).link.received = _
  rw [hstarts hopened]
  exact ⟨rfl, m₀.adapter.link.openPort_received _⟩

/-- So does the first half of a start. -/
theorem beginStart_eq (hok : m₀.adapter.beginStart.map Prod.fst = some (.ok true)) :
    (m₀.after .beginStart).host = { m₀.host with running := true, queue := some [] }
      ∧ (m₀.after .beginStart).adapter.link.received = m₀.adapter.link.received := by
  obtain ⟨⟨result, b⟩, hbegun, hresult⟩ := Option.map_eq_some_iff.mp hok
  obtain rfl : result = .ok true := hresult
  have hafter : (m₀.after .beginStart).adapter = b := by
    show (m₀.adapter.beginStart.map Prod.snd).getD m₀.adapter = b
    rw [hbegun]
    rfl
  rw [show (m₀.after .beginStart).host = b.host from congrArg Adapter.host hafter, hafter]
  rcases m₀.adapter.beginStart_cases hbegun with ⟨-, hno⟩ | ⟨opened, hopened, rfl⟩
  · exact absurd rfl hno
  obtain ⟨⟨_, _, heq⟩, hok⟩ := m₀.adapter.openUp_host_eq hopened
  obtain ⟨hrunning, hqueue⟩ := hok rfl
  obtain ⟨port, hlink⟩ := m₀.adapter.openUp_link_eq hopened
  have hreceived : opened.link.received = m₀.adapter.link.received := by rw [hlink]
  refine ⟨?_, hreceived⟩
  show opened.host = _
  rw [← hrunning, ← hqueue, heq]
  rfl

/-- **A session conserves commands.** -/
theorem conserves (hm₀ : m₀.Reachable) (hsession : Session m₀ log m) :
    m.Reachable ∧ m.host.running = true
      ∧ Conserves m₀.host.config.dispatchCapacity.toNat m₀.adapter.link.received.dropped
        m₀.host.deliveries log (m.adapter.link, m.adapter.host) := by
  -- either way it begins with an empty queue, and nothing has arrived
  have hbegun {m : Moment π}
      (hhost : m.adapter.host = { m₀.host with running := true, queue := some [] })
      (hreceived : m.adapter.link.received = m₀.adapter.link.received) :
      m.adapter.host.running = true
        ∧ Conserves m₀.host.config.dispatchCapacity.toNat m₀.adapter.link.received.dropped
          m₀.host.deliveries [] (m.adapter.link, m.adapter.host) := by
    rw [hhost]
    exact ⟨rfl, {
      capacity_eq := rfl
      queue := ⟨[], rfl, Nat.zero_le _, rfl⟩
      dropped_eq := (congrArg (·.dropped) hreceived).trans (UInt64.add_zero _).symm
      deliveries_eq := (List.append_nil _).symm
      answered := fun a ha => (by cases ha) }⟩
  induction hsession with
  | started hok =>
    obtain ⟨hhost, hreceived⟩ := start_eq hok
    exact ⟨hm₀.after .start, hbegun hhost hreceived⟩
  | opened hok =>
    obtain ⟨hhost, hreceived⟩ := beginStart_eq hok
    exact ⟨hm₀.after .beginStart, hbegun hhost hreceived⟩
  | next event _ hruns ih =>
    obtain ⟨hm, hrunning, hc⟩ := ih
    exact ⟨hm.after event, hruns, Moment.conserves_after hm.balanced hrunning hc event hruns⟩

end Session

/-! ## §4. All that arrives -/

/-- A stop hands over every command that waits, and fails the request in flight. -/
theorem Adapter.stop_host_eq {a : Adapter π} (hrunning : a.host.running = true)
    {queue : List Command} (hqueue : a.host.queue = some queue) :
    a.stop.2.host = { a.host with
      running := false
      queue := none
      inFlight := a.host.inFlight.map Sequence.fail
      outbox := a.host.outbox ++ (queue.flatMap a.host.subscriptions.offers).map .ofDelivery } := by
  have hqueue : ({ a.host with running := false } : Host).queue = some queue := hqueue
  unfold stop closeQueue
  rw [if_pos hrunning, Host.deliverAll_eq_of_queue hqueue]
  rfl

/-- **Every command that finds room reaches the subscribers, once and in
    order.**  Take any session, from a start that succeeds up to any moment
    before the next stop, and whatever is in flight meanwhile.  The queue never
    holds more than it may.  What has been handed over and what still waits
    are together the commands that have arrived and found room, in order, and
    everybody who wanted a command that was handed over has got it.  What
    arrived and found no room is counted, once each.  With room or without,
    each arrival has been acknowledged and routed to the request in flight,
    and what arrives are the commands that the decoder makes of the bytes that
    count.  A stop hands over all that still waits. -/
theorem commands_reach_subscribers {m₀ m : Moment π} {log : List (QueueNote π)}
    (hm₀ : m₀.Reachable) (hsession : Session m₀ log m) :
    let capacity := m₀.host.config.dispatchCapacity.toNat
    ∃ queue, m.host.queue = some queue
      ∧ queue.length ≤ capacity
      ∧ handedOver log ++ queue
        = ((arrivals log).filter (·.waiting < capacity)).map Arrival.command
      ∧ m.host.deliveries = m₀.host.deliveries ++ log.flatMap QueueNote.offers
      ∧ m.adapter.link.received.dropped = m₀.adapter.link.received.dropped
        + UInt64.ofNat ((arrivals log).countP (capacity ≤ ·.waiting))
      ∧ (∀ a ∈ arrivals log, a.Answered)
      ∧ (m.host.lifetime ≠ .gone → ∀ bytes, let d := m.adapter.link.decoder
        (arrivals (m.queueNotes (.receive bytes))).map (fun a => (a.frame, a.command))
          = (d.feed (d.kept bytes)).1.filterMap m.host.decoded?)
      ∧ (m.after .stop).host.queue = none
      ∧ (m.after .stop).host.deliveries
        = m.host.deliveries ++ queue.flatMap m.host.subscriptions.offers := by
  intro capacity
  obtain ⟨hm, hrunning, hc⟩ := hsession.conserves hm₀
  obtain ⟨queue, hqueue, hbound, hconserved⟩ := hc.queue
  have hstop := Adapter.stop_host_eq hrunning hqueue
  refine ⟨queue, hqueue, hbound, hconserved, hc.deliveries_eq, hc.dropped_eq, hc.answered, ?_,
    ?_, ?_⟩
  · intro hlives bytes
    exact Adapter.arrivals_queueNotes hm.balanced hlives bytes
  · exact congrArg Host.queue hstop
  · show m.adapter.stop.2.host.deliveries = _
    rw [hstop]
    unfold Host.deliveries
    rw [List.filterMap_append, Report.filterMap_delivery?_ofDelivery]
    rfl

/-- The default settings, but only one command may wait. -/
def Config.oneWaiting : Config := { Config.default with dispatchCapacity := 1 }

theorem Config.valid_oneWaiting : Config.oneWaiting.Valid := ⟨by decide, by decide, by decide⟩

/-- Two responses that name the SUC, node 1 and then node 2. -/
def twoSucNodeIds : List UInt8 :=
  [0x01, 0x04, 0x01, 0x56, 0x01, 0xAD, 0x01, 0x04, 0x01, 0x56, 0x02, 0xAE]

/-- Of two commands in one chunk the second finds no room.  It is dropped and
    counted; the first is handed over. -/
theorem commands_reach_subscribers_but_one :
    let new := Moment.new 0 ({} : ScriptedPort) .oneWaiting Config.valid_oneWaiting .standard
    let subscribed := new.after (.subscribe .sucNodeId fun _ => true)
    let m := subscribed.run [.start, .receive twoSucNodeIds, .dispatch]
    ∃ log, Session subscribed log m
      ∧ (arrivals log).map Arrival.waiting = [0, 1]
      ∧ m.host.queue = some []
      ∧ m.adapter.link.received.dropped = 1
      ∧ m.host.deliveries = [(⟨0⟩, .sucNodeId ⟨1⟩)] := by
  intro new subscribed m
  have hreachable : subscribed.Reachable :=
    ⟨_, _, _, _, _, [.subscribe .sucNodeId fun _ => true], rfl⟩
  let log := [] ++ (subscribed.after .start).queueNotes (.receive twoSucNodeIds)
    ++ (subscribed.run [.start, .receive twoSucNodeIds]).queueNotes .dispatch
  have hsession : Session subscribed log m :=
    .next .dispatch (.next (.receive twoSucNodeIds) (.started rfl) rfl) rfl
  have hwaiting : (arrivals log).map Arrival.waiting = [0, 1] := by decide
  obtain ⟨queue, hqueue, _, hconserved, hdeliveries, hdropped, _⟩ :=
    commands_reach_subscribers hreachable hsession
  refine ⟨log, hsession, hwaiting, ?_, ?_, ?_⟩
  · have hhanded : handedOver log = [.sucNodeId ⟨1⟩] := by decide
    have hroom : ((arrivals log).filter
        (·.waiting < subscribed.host.config.dispatchCapacity.toNat)).map Arrival.command
        = [.sucNodeId ⟨1⟩] := by decide
    rw [hhanded, hroom] at hconserved
    exact hqueue.trans (congrArg some (List.cons.inj hconserved).2)
  · rw [hdropped]
    decide
  · rw [hdeliveries]
    decide

end ZWaveHost
