/-
  ZWaveHost.Proofs.Run.Queue — commands that wait for the subscribers.

  A good data frame that can be read brings a command.  If there is room, the
  command waits behind the others; if there is none, it is dropped and
  counted.  Its frame is acknowledged all the same, and the request in flight
  gets the command all the same.

  Main facts: what has arrived and found room has been handed over or still
  waits (`Conserves`); every frame keeps this up (`Conserves.accept`), and so
  does every chunk (`Adapter.receive_conserves`).
-/
import ZWaveHost.Proofs.Run.Chunk
import ZWaveHost.Proofs.Run.Delivery

namespace ZWaveHost

variable {π : Type}

/-! ## §1. What is remembered of the queue -/

/-- A command that has been received, in its frame. -/
structure Arrival (π : Type) where
  frame : DataFrame
  entry : Entry
  command : Command
  /-- The link and the host that the frame was delivered to. -/
  before : Link π × Host
  /-- What they were when it had been accepted. -/
  after : Link π × Host

/-- How many commands wait when it arrives. -/
def Arrival.waiting (a : Arrival π) : Nat := (a.before.2.queue.getD []).length

/-- What happens to the queue. -/
inductive QueueNote (π : Type) where
  /-- A command arrives. -/
  | arrived (arrival : Arrival π)
  /-- The first command leaves the queue, and is offered to its subscribers. -/
  | handed (command : Command) (offers : List (Subscription.Handle × Command))

namespace QueueNote

/-- The arrival that is noted. -/
def arrival? : QueueNote π → Option (Arrival π)
  | .arrived a => some a
  | .handed _ _ => none

/-- The command that is handed over. -/
def handed? : QueueNote π → Option Command
  | .arrived _ => none
  | .handed command _ => some command

/-- To whom it is handed. -/
def offers : QueueNote π → List (Subscription.Handle × Command)
  | .arrived _ => []
  | .handed _ offers => offers

end QueueNote

/-- The commands that have arrived, in order. -/
def arrivals (log : List (QueueNote π)) : List (Arrival π) := log.filterMap QueueNote.arrival?

/-- The commands that have been handed over, in order. -/
def handedOver (log : List (QueueNote π)) : List Command := log.filterMap QueueNote.handed?

theorem arrivals_append (log more : List (QueueNote π)) :
    arrivals (log ++ more) = arrivals log ++ arrivals more := List.filterMap_append

theorem handedOver_append (log more : List (QueueNote π)) :
    handedOver (log ++ more) = handedOver log ++ handedOver more := List.filterMap_append

theorem arrivals_arrived (log : List (QueueNote π)) (a : Arrival π) :
    arrivals (log ++ [.arrived a]) = arrivals log ++ [a] := arrivals_append log _

/-- Nothing is handed over when a command arrives. -/
theorem handedOver_arrived (log : List (QueueNote π)) (a : Arrival π) :
    handedOver (log ++ [.arrived a]) = handedOver log :=
  (handedOver_append log _).trans (List.append_nil _)

/-- Nobody is offered a command when it arrives. -/
theorem offers_arrived (log : List (QueueNote π)) (a : Arrival π) :
    (log ++ [QueueNote.arrived a]).flatMap QueueNote.offers = log.flatMap QueueNote.offers :=
  List.flatMap_append.trans (List.append_nil _)

variable [Port π]

/-- What is noted of a frame: a good data frame that can be read brings a command. -/
def Host.arrival? (frame : Frame) (s : Link π × Host) : Option (Arrival π) :=
  match frame with
  | .data f =>
    if f.isValid then
      (s.2.read? f).map fun (entry, command) => ⟨f, entry, command, s, accept frame s⟩
    else none
  | _ => none

/-- A frame is accepted, and its command is noted. -/
def Host.acceptQueued (frame : Frame) (s : Link π × Host × List (QueueNote π)) :
    Link π × Host × List (QueueNote π) :=
  let t := accept frame (s.1, s.2.1)
  (t.1, t.2, s.2.2 ++ (arrival? frame (s.1, s.2.1)).toList.map .arrived)

/-- What is noted of a chunk. -/
def Adapter.queueNotes (a : Adapter π) (bytes : List UInt8) : List (QueueNote π) :=
  if a.host.lifetime = .gone then []
  else (Link.receive Host.acceptQueued bytes (a.link, a.host, [])).2.2

/-! ## §2. What is kept up -/

/-- Its frame has been acknowledged, and the request in flight has got the
    command, if it is an answer to it. -/
structure Arrival.Answered (a : Arrival π) : Prop where
  acknowledged : a.after.1.port = (Link.writeOut Frame.ack.toBytes a.before.1.port).2
  routed : a.after.2.inFlight
    = (a.before.2.route a.frame.kind a.frame.commandId a.entry.flow a.command).inFlight

/-- What a session keeps up, whose queue holds so many commands, and before
    which so many commands had been dropped and these had been delivered:
    what has found room has been handed over or still waits, in order; what
    has not is counted. -/
structure Conserves (capacity : Nat) (dropped : UInt64)
    (delivered : List (Subscription.Handle × Command)) (log : List (QueueNote π))
    (s : Link π × Host) : Prop where
  capacity_eq : s.2.config.dispatchCapacity.toNat = capacity
  queue : ∃ queue, s.2.queue = some queue ∧ queue.length ≤ capacity
    ∧ handedOver log ++ queue
      = ((arrivals log).filter (·.waiting < capacity)).map Arrival.command
  dropped_eq : s.1.received.dropped
    = dropped + UInt64.ofNat ((arrivals log).countP (capacity ≤ ·.waiting))
  deliveries_eq : s.2.deliveries = delivered ++ log.flatMap QueueNote.offers
  answered : ∀ a ∈ arrivals log, a.Answered

namespace Conserves

variable {capacity : Nat} {dropped : UInt64} {delivered : List (Subscription.Handle × Command)}
  {log : List (QueueNote π)} {l : Link π} {h : Host}

/-- Anything may change but the settings, the queue, the deliveries and the
    count of what was dropped. -/
theorem replace (hc : Conserves capacity dropped delivered log (l, h)) {l' : Link π} {h' : Host}
    (hconfig : h'.config = h.config) (hqueue : h'.queue = h.queue)
    (hdeliveries : h'.deliveries = h.deliveries)
    (hdropped : l'.received.dropped = l.received.dropped) :
    Conserves capacity dropped delivered log (l', h') where
  capacity_eq := by
    show h'.config.dispatchCapacity.toNat = capacity
    rw [hconfig]
    exact hc.capacity_eq
  queue := by
    show ∃ queue, h'.queue = some queue ∧ _
    rw [hqueue]
    exact hc.queue
  dropped_eq := hdropped.trans hc.dropped_eq
  deliveries_eq := hdeliveries.trans hc.deliveries_eq
  answered := hc.answered

theorem answered_append (hc : Conserves capacity dropped delivered log (l, h)) {a : Arrival π}
    (ha : a.Answered) : ∀ b ∈ arrivals (log ++ [.arrived a]), b.Answered := by
  intro b hb
  rw [arrivals_arrived] at hb
  rcases List.mem_append.mp hb with hold | hnew
  · exact hc.answered b hold
  · rw [List.mem_singleton.mp hnew]
    exact ha

/-- **A command that finds room** waits behind the others. -/
theorem lineUp (hc : Conserves capacity dropped delivered log (l, h)) {a : Arrival π}
    (ha : a.Answered) {queue : List Command} (hqueue : h.queue = some queue)
    (hwaiting : a.waiting = queue.length) (hroom : queue.length < capacity) {l' : Link π}
    {h' : Host} (hconfig : h'.config = h.config) (hdeliveries : h'.deliveries = h.deliveries)
    (hqueue' : h'.queue = some (queue ++ [a.command]))
    (hdropped : l'.received.dropped = l.received.dropped) :
    Conserves capacity dropped delivered (log ++ [.arrived a]) (l', h') where
  capacity_eq := (congrArg (·.dispatchCapacity.toNat) hconfig).trans hc.capacity_eq
  queue := by
    obtain ⟨queue', hsame, _, hconserved⟩ := hc.queue
    obtain rfl : queue = queue' := Option.some.inj (hqueue.symm.trans hsame)
    refine ⟨queue ++ [a.command], hqueue', ?_, ?_⟩
    · rw [List.length_append]
      exact hroom
    · -- it is the last of those that have found room, and of those that wait
      rw [handedOver_arrived, arrivals_arrived, List.filter_append, List.map_append, ← hconserved,
        List.filter_cons_of_pos (by rw [hwaiting]; exact decide_eq_true hroom),
        List.append_assoc]
      rfl
  dropped_eq := by
    rw [arrivals_arrived, List.countP_append,
      List.countP_cons_of_neg (by rw [hwaiting]; simpa using hroom)]
    exact hdropped.trans hc.dropped_eq
  deliveries_eq := by
    rw [offers_arrived]
    exact hdeliveries.trans hc.deliveries_eq
  answered := hc.answered_append ha

/-- **A command that finds no room** is dropped and counted. -/
theorem refuse (hc : Conserves capacity dropped delivered log (l, h)) {a : Arrival π}
    (ha : a.Answered) (hfull : capacity ≤ a.waiting) {l' : Link π}
    {h' : Host} (hconfig : h'.config = h.config) (hdeliveries : h'.deliveries = h.deliveries)
    (hqueue : h'.queue = h.queue) (hdropped : l'.received.dropped = l.received.dropped + 1) :
    Conserves capacity dropped delivered (log ++ [.arrived a]) (l', h') where
  capacity_eq := (congrArg (·.dispatchCapacity.toNat) hconfig).trans hc.capacity_eq
  queue := by
    obtain ⟨queue, hsame, hbound, hconserved⟩ := hc.queue
    refine ⟨queue, hqueue.trans hsame, hbound, ?_⟩
    rw [handedOver_arrived, arrivals_arrived, List.filter_append, List.map_append, ← hconserved,
      List.filter_cons_of_neg (by simpa using hfull)]
    exact (List.append_nil _).symm
  dropped_eq := by
    rw [arrivals_arrived, List.countP_append, List.countP_cons_of_pos (by simpa using hfull),
      UInt64.ofNat_add, ← UInt64.add_assoc]
    exact hdropped.trans (congrArg (· + 1) hc.dropped_eq)
  deliveries_eq := by
    rw [offers_arrived]
    exact hdeliveries.trans hc.deliveries_eq
  answered := hc.answered_append ha

/-- **The first command is handed over**, and offered to its subscribers. -/
theorem hand (hc : Conserves capacity dropped delivered log (l, h)) {command : Command}
    {rest : List Command} (hqueue : h.queue = some (command :: rest)) :
    Conserves capacity dropped delivered
      (log ++ [.handed command (h.subscriptions.offers command)]) (l, h.deliverNext) := by
  have harrivals : arrivals (log ++ [.handed command (h.subscriptions.offers command)])
      = arrivals log := by
    rw [arrivals_append]
    exact List.append_nil _
  rw [Host.deliverNext_eq_of_queue hqueue]
  refine ⟨hc.capacity_eq, ?_, ?_, ?_, ?_⟩
  · obtain ⟨queue, hsame, hbound, hconserved⟩ := hc.queue
    obtain rfl : command :: rest = queue := Option.some.inj (hqueue.symm.trans hsame)
    refine ⟨rest, rfl, Nat.le_of_succ_le hbound, ?_⟩
    rw [harrivals, ← hconserved, handedOver_append, List.append_assoc]
    rfl
  · rw [harrivals]
    exact hc.dropped_eq
  · show Host.deliveries { h with queue := some rest, outbox := _ } = _
    unfold Host.deliveries
    rw [List.filterMap_append, Report.filterMap_delivery?_ofDelivery, List.flatMap_append,
      ← List.append_assoc]
    congr 1
    · exact hc.deliveries_eq
    · exact (List.append_nil _).symm
  · rw [harrivals]
    exact hc.answered

end Conserves

/-! ## §3. One frame -/

namespace Host

variable {l : Link π} {h : Host}

omit [Port π] in
/-- How many commands wait does not matter to the request in flight. -/
theorem route_inFlight_of_queue (h : Host) (queue : Option (List Command)) (kind : FrameKind)
    (commandId : UInt8) (flow : Flow) (command : Command) :
    (({ h with queue := queue } : Host).route kind commandId flow command).inFlight
      = (h.route kind commandId flow command).inFlight := by
  unfold route
  cases hs : h.inFlight with
  | none => exact hs.symm
  | some s =>
    dsimp only
    split
    · exact hs.symm
    cases kind with
    | response => cases s.updateResponse command <;> rfl
    | request =>
      dsimp only
      split
      · cases s.updateCallback command <;> rfl
      · exact hs.symm

/-- **A good frame that can be read** is acknowledged, queued and routed. -/
theorem acceptData_of_read {f : DataFrame} {entry : Entry} {command : Command}
    (hvalid : f.isValid = true) (hread : h.read? f = some (entry, command)) :
    acceptData f (l, h) = ((enqueue command ((l.send .ack).2, h)).1,
      (enqueue command ((l.send .ack).2, h)).2.route f.kind f.commandId entry.flow command) := by
  unfold acceptData
  dsimp only
  rw [if_pos hvalid, hread]

theorem arrival?_of_read {f : DataFrame} {entry : Entry} {command : Command}
    (hvalid : f.isValid = true) (hread : h.read? f = some (entry, command)) :
    arrival? (.data f) (l, h)
      = some ⟨f, entry, command, (l, h), acceptData f (l, h)⟩ := by
  unfold arrival?
  dsimp only
  rw [if_pos hvalid, hread]
  rfl

/-- Any other data frame is answered, and nothing arrives. -/
theorem acceptData_of_unread {f : DataFrame}
    (hunread : ¬(f.isValid = true ∧ ∃ found, h.read? f = some found)) :
    arrival? (.data f) (l, h) = none
      ∧ ∃ reply, acceptData f (l, h) = ((l.send reply).2, h) := by
  unfold arrival? acceptData
  dsimp only
  by_cases hvalid : f.isValid = true
  · rw [if_pos hvalid, if_pos hvalid]
    cases hread : h.read? f with
    | none => exact ⟨rfl, .ack, rfl⟩
    | some found => exact absurd ⟨hvalid, found, hread⟩ hunread
  · rw [if_neg hvalid, if_neg hvalid]
    exact ⟨rfl, .nak, rfl⟩

/-- **However full the queue is**, the frame is acknowledged and the command
    routed. -/
theorem answered_of_read (hl : l.Idle) {f : DataFrame} {entry : Entry} {command : Command}
    (hvalid : f.isValid = true) (hread : h.read? f = some (entry, command)) :
    (⟨f, entry, command, (l, h), acceptData f (l, h)⟩ : Arrival π).Answered where
  acknowledged := by
    obtain ⟨received, heq⟩ := acceptData_link f l h
    show (acceptData f (l, h)).1.port = _
    rw [heq, if_pos hvalid, hl.send_eq]
    rcases Link.writeOut Frame.ack.toBytes l.port with ⟨result, port⟩
    cases result <;> rfl
  routed := by
    obtain ⟨queue, heq⟩ := enqueue_eq command (l.send .ack).2 h
    show (acceptData f (l, h)).2.inFlight = _
    rw [acceptData_of_read hvalid hread, heq, route_inFlight_of_queue]

end Host

namespace Conserves

variable {capacity : Nat} {dropped : UInt64} {delivered : List (Subscription.Handle × Command)}
  {log : List (QueueNote π)} {l : Link π} {h : Host}

/-- A command that arrives waits, or is dropped and counted. -/
theorem arrive (hc : Conserves capacity dropped delivered log (l, h)) (hl : l.Idle) {f : DataFrame}
    {entry : Entry} {command : Command} (hvalid : f.isValid = true)
    (hread : h.read? f = some (entry, command)) :
    Conserves capacity dropped delivered
      (log ++ [.arrived ⟨f, entry, command, (l, h), Host.acceptData f (l, h)⟩])
      (Host.acceptData f (l, h)) := by
  have hanswered := Host.answered_of_read hl hvalid hread
  have hsent := l.send_received .ack
  obtain ⟨queue, hqueue, _, _⟩ := hc.queue
  have hqueue : h.queue = some queue := hqueue
  have hcapacity : h.config.dispatchCapacity.toNat = capacity := hc.capacity_eq
  have hwaiting : (h.queue.getD []).length = queue.length := by
    rw [hqueue]
    rfl
  -- what the frame comes to stands in the note as well, so it is opened in both
  rw [Host.acceptData_of_read hvalid hread] at hanswered ⊢
  unfold Host.enqueue at hanswered ⊢
  dsimp only at hanswered ⊢
  simp only [hqueue] at hanswered ⊢
  by_cases hroom : queue.length < capacity
  · rw [hcapacity, if_pos hroom] at hanswered ⊢
    dsimp only at hanswered ⊢
    obtain ⟨inFlight, hroute⟩ := Host.route_eq
      { h with queue := some (queue ++ [command]) } f.kind f.commandId entry.flow command
    rw [hroute] at hanswered ⊢
    exact hc.lineUp hanswered hqueue hwaiting hroom rfl rfl rfl (congrArg (·.dropped) hsent)
  · rw [hcapacity, if_neg hroom] at hanswered ⊢
    dsimp only at hanswered ⊢
    obtain ⟨inFlight, hroute⟩ := h.route_eq f.kind f.commandId entry.flow command
    rw [hroute] at hanswered ⊢
    have hfull := Nat.le_of_not_lt hroom
    rw [← hwaiting] at hfull
    exact hc.refuse hanswered hfull rfl rfl rfl (congrArg (·.dropped + 1) hsent)

/-- **What a frame brings is conserved.** -/
theorem accept (hc : Conserves capacity dropped delivered log (l, h)) (hl : l.Idle)
    (frame : Frame) :
    Conserves capacity dropped delivered
      (log ++ (Host.arrival? frame (l, h)).toList.map .arrived) (Host.accept frame (l, h)) := by
  have hsame : log ++ ((none : Option (Arrival π)).toList.map QueueNote.arrived) = log :=
    List.append_nil log
  cases frame with
  | ack =>
    obtain ⟨inFlight, heq⟩ := h.acknowledge_eq
    show Conserves capacity dropped delivered (log ++ []) (l, h.acknowledge)
    rw [List.append_nil, heq]
    exact hc.replace rfl rfl rfl rfl
  | nak =>
    show Conserves capacity dropped delivered (log ++ []) (l, h.reject)
    rw [List.append_nil, Host.reject_eq]
    exact hc.replace rfl rfl rfl rfl
  | can =>
    show Conserves capacity dropped delivered (log ++ []) (l, h.reject)
    rw [List.append_nil, Host.reject_eq]
    exact hc.replace rfl rfl rfl rfl
  | data f =>
    show Conserves capacity dropped delivered _ (Host.acceptData f (l, h))
    by_cases hread : f.isValid = true ∧ ∃ found, h.read? f = some found
    · obtain ⟨hvalid, ⟨entry, command⟩, hread⟩ := hread
      rw [Host.arrival?_of_read hvalid hread]
      exact hc.arrive hl hvalid hread
    · obtain ⟨hnone, reply, heq⟩ := Host.acceptData_of_unread (l := l) hread
      rw [hnone, hsame, heq]
      exact hc.replace rfl rfl rfl (congrArg (·.dropped) (l.send_received reply))

end Conserves

/-! ## §4. Chunks -/

namespace Host

theorem keepsIdle_acceptQueued :
    Link.KeepsIdle (acceptQueued : Frame → Link π × Host × List (QueueNote π) → _) :=
  fun frame _ s hl => keepsIdle_accept frame _ s.1 hl

/-- The notes disturb neither the link nor the host. -/
theorem receive_acceptQueued (bytes : List UInt8) (l : Link π) (h : Host)
    (notes : List (QueueNote π)) :
    ((Link.receive acceptQueued bytes (l, h, notes)).1,
        (Link.receive acceptQueued bytes (l, h, notes)).2.1)
      = Link.receive accept bytes (l, h) :=
  Link.receive_map Prod.fst (fun _ _ _ => rfl) bytes l (h, notes)

/-- The command that the decoder's answer to a byte brings, with its frame. -/
def decoded? (h : Host) : Except FrameError DecodeEvent → Option (DataFrame × Command)
  | .ok (.frame (.data f)) =>
    if f.isValid then (h.read? f).map fun (_, command) => (f, command) else none
  | _ => none

omit [Port π] in
theorem decoded?_of_registry {h h' : Host} (hregistry : h'.registry = h.registry) :
    h'.decoded? = h.decoded? := by
  funext r
  unfold decoded? read?
  rw [hregistry]

end Host

/-- A frame that is delivered brings what the decoder has answered. -/
theorem arrivals_arrival? (frame : Frame) (l : Link π) (h : Host) :
    (arrivals ((Host.arrival? frame (l, h)).toList.map .arrived)).map
        (fun a => (a.frame, a.command))
      = [Except.ok (.frame frame)].filterMap h.decoded? := by
  cases frame with
  | ack => rfl
  | nak => rfl
  | can => rfl
  | data f =>
    rw [List.filterMap_cons]
    unfold Host.arrival? Host.decoded?
    dsimp only
    split
    · cases h.read? f <;> rfl
    · rfl

namespace Adapter

variable {a : Adapter π}

/-- **What arrives is what the decoder makes of the bytes that count**, as far
    as it can be read. -/
theorem arrivals_queueNotes (hl : a.link.Balanced) (hlives : a.host.lifetime ≠ .gone)
    (bytes : List UInt8) :
    (arrivals (a.queueNotes bytes)).map (fun x => (x.frame, x.command))
      = (a.link.decoder.feed (a.link.decoder.kept bytes)).1.filterMap a.host.decoded? := by
  unfold queueNotes
  rw [if_neg hlives]
  refine (Link.receive_induction
    (P := fun heard (s : Link π × Host × List (QueueNote π)) =>
      s.2.1.registry = a.host.registry
        ∧ (arrivals s.2.2).map (fun x => (x.frame, x.command)) = heard.filterMap a.host.decoded?)
    Host.keepsIdle_acceptQueued ?_ bytes [] hl (s := (a.host, [])) ⟨rfl, rfl⟩).1.2
  intro heard l s byte _ ⟨hregistry, hheard⟩
  rw [List.filterMap_append, ← hheard]
  cases (l.decoder.push byte).1 with
  | error e => exact ⟨hregistry, (List.append_nil _).symm⟩
  | ok event =>
    cases event with
    | pending => exact ⟨hregistry, (List.append_nil _).symm⟩
    | outOfFrame noise => exact ⟨hregistry, (List.append_nil _).symm⟩
    | frame frame =>
      obtain ⟨_, _, _, _, heq⟩ := Host.accept_eq frame (l.tookIn byte) s.1
      refine ⟨(congrArg Host.registry heq).trans hregistry, ?_⟩
      rw [← Host.decoded?_of_registry hregistry, ← arrivals_arrival? frame (l.tookIn byte) s.1,
        ← List.map_append, ← arrivals_append]
      rfl

/-- **A chunk conserves commands**, whatever frames are in it. -/
theorem receive_conserves {capacity : Nat} {dropped : UInt64}
    {delivered : List (Subscription.Handle × Command)} {log : List (QueueNote π)}
    (hl : a.link.Balanced) (hc : Conserves capacity dropped delivered log (a.link, a.host))
    (bytes : List UInt8) :
    Conserves capacity dropped delivered (log ++ a.queueNotes bytes)
      ((a.receive bytes).link, (a.receive bytes).host) := by
  unfold receive queueNotes
  by_cases hgone : a.host.lifetime = .gone
  · rw [if_pos hgone, if_pos hgone, List.append_nil]
    exact hc
  rw [if_neg hgone, if_neg hgone]
  show Conserves _ _ _ _ (Link.receive Host.accept bytes (a.link, a.host))
  rw [← Host.receive_acceptQueued bytes a.link a.host []]
  refine (Link.receive_induction
    (P := fun _ (s : Link π × Host × List (QueueNote π)) =>
      Conserves capacity dropped delivered (log ++ s.2.2) (s.1, s.2.1))
    Host.keepsIdle_acceptQueued ?_ bytes [] hl (s := (a.host, [])) ?_).1
  · intro _ l s byte hbalanced hs
    have htaken : Conserves capacity dropped delivered (log ++ s.2) (l.tookIn byte, s.1) :=
      hs.replace rfl rfl rfl (l.tookIn_dropped byte)
    cases hresult : (l.decoder.push byte).1 with
    | error e =>
      exact htaken.replace rfl rfl rfl (congrArg (·.dropped) ((l.tookIn byte).send_received .nak))
    | ok event =>
      cases event with
      | pending => exact htaken
      | outOfFrame noise => exact htaken
      | frame frame =>
        have haccepted := htaken.accept (hbalanced.tookIn_idle_of_frame hresult) frame
        rw [List.append_assoc] at haccepted
        exact haccepted
  · rw [List.append_nil]
    exact hc

end Adapter

end ZWaveHost
