/-
  ZWaveHost.Proofs.Run.Isolation — what does not concern the request in
  flight.

  Most of what comes in is for somebody else, or for nobody: noise, frames
  that are malformed or damaged, rejections, an ACK that nobody waits for,
  and data frames that the request in flight has not asked for
  (`Sequence.Ignores`).  A request that is over is not concerned by anything.

  Main fact: wherever in a chunk they stand, such bytes leave the sequence in
  flight exactly as it is, and nothing at all changes one that is over; but
  whatever else a byte completes does change it (`inFlight_undisturbed`).
-/
import ZWaveHost.Proofs.Run.Invariant

namespace ZWaveHost

variable {π : Type} [Port π]

/-! ## §1. What is not meant for a sequence -/

/-- What a byte may complete without concerning a sequence. -/
inductive Sequence.Ignores (registry : Registry) (s : Sequence) :
    Except FrameError DecodeEvent → Prop
  /-- The byte completes nothing. -/
  | incomplete : s.Ignores registry (.ok .pending)
  | noise (byte : UInt8) : s.Ignores registry (.ok (.outOfFrame byte))
  | malformed (e : FrameError) : s.Ignores registry (.error e)
  | nak : s.Ignores registry (.ok (.frame .nak))
  | can : s.Ignores registry (.ok (.frame .can))
  /-- No ACK is waited for. -/
  | unexpectedAck (hstate : s.state ≠ .waitingForAck) : s.Ignores registry (.ok (.frame .ack))
  | wrongChecksum {f : DataFrame} (hinvalid : f.isValid = false) :
    s.Ignores registry (.ok (.frame (.data f)))
  | otherCommand {f : DataFrame} (hother : f.commandId ≠ s.commandId) :
    s.Ignores registry (.ok (.frame (.data f)))
  /-- The command is not registered, or not with a codec for this kind of frame. -/
  | noCodec {f : DataFrame}
    (hnone : (registry.find? f.commandId).bind (·.codecFor? f.kind) = none) :
    s.Ignores registry (.ok (.frame (.data f)))
  /-- The codec only encodes. -/
  | unreadable {f : DataFrame} {entry : Entry} {codec : Codec}
    (hentry : registry.find? f.commandId = some entry)
    (hcodec : entry.codecFor? f.kind = some codec)
    (hnone : codec.decode? (.ofBytes f.payload) = none) :
    s.Ignores registry (.ok (.frame (.data f)))
  /-- The payload is not one of this command. -/
  | undecodable {f : DataFrame} {entry : Entry} {codec : Codec} {fault : CodecError}
    {unread : Buffer} (hentry : registry.find? f.commandId = some entry)
    (hcodec : entry.codecFor? f.kind = some codec)
    (hfault : codec.decode? (.ofBytes f.payload) = some (.error fault, unread)) :
    s.Ignores registry (.ok (.frame (.data f)))
  /-- The sequence has no callback. -/
  | notCalledBack {f : DataFrame} (hkind : f.kind = .request) (hflow : s.flow.hasCallback = false) :
    s.Ignores registry (.ok (.frame (.data f)))
  /-- The command of the frame has no callback. -/
  | noCallback {f : DataFrame} {entry : Entry} (hkind : f.kind = .request)
    (hentry : registry.find? f.commandId = some entry) (hflow : entry.flow.hasCallback = false) :
    s.Ignores registry (.ok (.frame (.data f)))

/-! ## §2. One frame -/

namespace Host

variable {h : Host} {s : Sequence}

omit [Port π] in
/-- What is read has an entry and a codec, and decodes. -/
theorem read?_eq_some_iff {f : DataFrame} {entry : Entry} {command : Command} :
    h.read? f = some (entry, command)
      ↔ h.registry.find? f.commandId = some entry ∧ ∃ codec unread,
        entry.codecFor? f.kind = some codec
        ∧ codec.decode? (.ofBytes f.payload) = some (.ok command, unread) := by
  unfold read?
  constructor
  · intro hread
    simp only [Option.bind_eq_bind, Option.bind_eq_some_iff] at hread
    obtain ⟨found, hfound, codec, hcodec, ⟨result, unread⟩, hdecode, hresult⟩ := hread
    cases result with
    | error fault => cases hresult
    | ok c =>
      cases hresult
      exact ⟨hfound, codec, unread, hcodec, hdecode⟩
  · rintro ⟨hentry, codec, unread, hcodec, hdecode⟩
    simp only [Option.bind_eq_bind, hentry, hcodec, hdecode, Option.bind_some]
    rfl

omit [Port π] in
/-- A frame is read with the codec that its entry has for it. -/
theorem read?_decodes {f : DataFrame} {entry found : Entry} {codec : Codec} {command : Command}
    (hentry : h.registry.find? f.commandId = some entry)
    (hcodec : entry.codecFor? f.kind = some codec)
    (hread : h.read? f = some (found, command)) :
    ∃ unread, codec.decode? (.ofBytes f.payload) = some (.ok command, unread) := by
  obtain ⟨hfound, codec', unread, hcodec', hdecode⟩ := read?_eq_some_iff.mp hread
  obtain rfl := Option.some.inj (hentry.symm.trans hfound)
  obtain rfl := Option.some.inj (hcodec.symm.trans hcodec')
  exact ⟨unread, hdecode⟩

/-- **What is not an answer to the request in flight is not handed to it.** -/
theorem route_eq_self (hs : h.inFlight = some s) {kind : FrameKind} {commandId : UInt8}
    {flow : Flow} (hother : s.commandId ≠ commandId ∨ kind = .request ∧ flow.hasCallback = false)
    (command : Command) : h.route kind commandId flow command = h := by
  unfold route
  rw [hs]
  dsimp only
  by_cases hid : (s.commandId ≠ commandId || s.isTerminal) = true
  · rw [if_pos hid]
  rw [if_neg hid]
  rcases hother with hother | ⟨hkind, hflow⟩
  · exfalso
    apply hid
    rw [Bool.or_eq_true, decide_eq_true_eq]
    exact .inl hother
  · rw [hkind, hflow]
    rfl

/-- A data frame leaves the request in flight alone, unless it is valid, can
    be read and answers that request. -/
theorem acceptData_inFlight (hs : h.inFlight = some s) {f : DataFrame}
    (hother : ∀ entry command, f.isValid = true → h.read? f = some (entry, command) →
      s.commandId ≠ f.commandId ∨ f.kind = .request ∧ entry.flow.hasCallback = false)
    (l : Link π) : (acceptData f (l, h)).2.inFlight = some s := by
  obtain ⟨heq, _⟩ | ⟨queue, entry, command, hvalid, hread, heq⟩ := acceptData_eq f l h
  · rw [heq]
    exact hs
  · have hqueued : ({ h with queue := queue } : Host).inFlight = some s := hs
    rw [heq, route_eq_self hqueued (hother entry command hvalid hread)]
    exact hqueued

omit [Port π] in
/-- **An answer to the request in flight changes it**, even if it comes at the
    wrong time. -/
theorem route_inFlight_ne (hs : h.inFlight = some s) (hopen : s.isTerminal = false)
    {kind : FrameKind} {flow : Flow} (hanswer : kind = .request → flow.hasCallback = true)
    (command : Command) : (h.route kind s.commandId flow command).inFlight ≠ some s := by
  have hself : ¬ (s.commandId ≠ s.commandId || s.isTerminal) = true := by simp [hopen]
  have hfailed : some s.fail ≠ some s := fun heq => Sequence.fail_ne hopen (Option.some.inj heq)
  unfold route
  rw [hs]
  dsimp only
  rw [if_neg hself]
  cases kind with
  | response =>
    cases hok : s.updateResponse command with
    | ok t => exact fun heq => Sequence.updateResponse_ne hok (Option.some.inj heq)
    | error fault => exact hfailed
  | request =>
    dsimp only
    rw [if_pos (hanswer rfl)]
    cases hok : s.updateCallback command with
    | ok t => exact fun heq => Sequence.updateCallback_ne hok (Option.some.inj heq)
    | error fault => exact hfailed

/-- An ACK that is waited for changes the sequence. -/
theorem acknowledge_inFlight_ne (hs : h.inFlight = some s) (hstate : s.state = .waitingForAck) :
    h.acknowledge.inFlight ≠ some s := by
  have hopen : s.isTerminal = false := by rw [Sequence.isTerminal, hstate]; rfl
  unfold acknowledge
  rw [hs]
  dsimp only
  rw [if_pos hstate]
  cases hok : s.acknowledge with
  | ok t => exact fun heq => Sequence.acknowledge_ne hok (Option.some.inj heq)
  | error fault => exact fun heq => Sequence.fail_ne hopen (Option.some.inj heq)

/-- Nothing makes anything else of a sequence that is over. -/
theorem Hears.eq_of_isTerminal {frame : Frame} {t : Sequence} (hh : h.Hears s frame t)
    (hover : s.isTerminal = true) : t = s := by
  unfold Sequence.isTerminal at hover
  cases hh with
  | ignored htakes => rfl
  | acknowledged hok =>
    rw [(Sequence.acknowledge_eq_ok_iff.mp hok).1] at hover
    cases hover
  | answered hvalid hkind hid hread hok =>
    rcases (Sequence.updateResponse_eq_ok_iff.mp hok).1 with hstate | hstate <;>
      rw [hstate] at hover <;> cases hover
  | calledBack hvalid hkind hid hread hok =>
    rw [(Sequence.updateCallback_eq_ok_iff.mp hok).1] at hover
    cases hover
  | failed hopen =>
    unfold Sequence.isTerminal at hopen
    rw [hopen] at hover
    cases hover

end Host

/-! ## §3. One byte -/

/-- **What a sequence ignores leaves it in flight as it is.** -/
theorem Link.handle_ignored {h : Host} {s : Sequence} (hs : h.inFlight = some s)
    (hknows : h.registry.Knows s.commandId s.flow) {r : Except FrameError DecodeEvent}
    (hr : s.Ignores h.registry r) (l : Link π) :
    (Link.handle Host.accept r (l, h)).2.inFlight = some s := by
  cases hr with
  | incomplete => exact hs
  | noise byte => exact hs
  | malformed e => exact hs
  | nak => exact (Host.reject_inFlight h).trans hs
  | can => exact (Host.reject_inFlight h).trans hs
  | unexpectedAck hstate =>
    show h.acknowledge.inFlight = some s
    unfold Host.acknowledge
    rw [hs]
    dsimp only
    rw [if_neg hstate]
    exact hs
  | wrongChecksum hinvalid =>
    refine Host.acceptData_inFlight hs ?_ l
    intro entry command hvalid hread
    rw [hinvalid] at hvalid
    cases hvalid
  | otherCommand hother =>
    refine Host.acceptData_inFlight hs ?_ l
    intro entry command hvalid hread
    exact .inl hother.symm
  | noCodec hnone =>
    refine Host.acceptData_inFlight hs ?_ l
    intro entry command hvalid hread
    obtain ⟨hentry, codec, unread, hcodec, _⟩ := Host.read?_eq_some_iff.mp hread
    rw [hentry, Option.bind_some, hcodec] at hnone
    cases hnone
  | unreadable hentry hcodec hnone =>
    refine Host.acceptData_inFlight hs ?_ l
    intro entry command hvalid hread
    obtain ⟨unread, hdecode⟩ := Host.read?_decodes hentry hcodec hread
    rw [hnone] at hdecode
    cases hdecode
  | undecodable hentry hcodec hfault =>
    refine Host.acceptData_inFlight hs ?_ l
    intro entry command hvalid hread
    obtain ⟨unread, hdecode⟩ := Host.read?_decodes hentry hcodec hread
    rw [hfault] at hdecode
    cases hdecode
  | @notCalledBack f hkind hflow =>
    refine Host.acceptData_inFlight hs ?_ l
    intro entry command hvalid hread
    by_cases hid : s.commandId = f.commandId
    · -- the entry of the frame is the one that the sequence has its flow from
      right
      obtain ⟨known, hknown, hflow'⟩ := hknows
      obtain ⟨hfound, _⟩ := Host.read?_eq_some_iff.mp hread
      rw [hid] at hknown
      obtain rfl := Option.some.inj (hknown.symm.trans hfound)
      rw [hflow']
      exact ⟨hkind, hflow⟩
    · exact .inl hid
  | noCallback hkind hentry hflow =>
    refine Host.acceptData_inFlight hs ?_ l
    intro entry command hvalid hread
    obtain ⟨hfound, _⟩ := Host.read?_eq_some_iff.mp hread
    obtain rfl := Option.some.inj (hentry.symm.trans hfound)
    exact .inr ⟨hkind, hflow⟩

omit [Port π] in
/-- A frame that cannot be read has no codec, or not one that reads it. -/
theorem Sequence.ignores_of_read?_none {h : Host} {f : DataFrame} (hnone : h.read? f = none)
    (s : Sequence) : s.Ignores h.registry (.ok (.frame (.data f))) := by
  cases hentry : h.registry.find? f.commandId with
  | none => exact .noCodec (by rw [hentry]; rfl)
  | some entry =>
    cases hcodec : entry.codecFor? f.kind with
    | none => exact .noCodec (by rw [hentry]; exact hcodec)
    | some codec =>
      cases hdecode : codec.decode? (.ofBytes f.payload) with
      | none => exact .unreadable hentry hcodec hdecode
      | some decoded =>
        obtain ⟨result, unread⟩ := decoded
        cases result with
        | error fault => exact .undecodable hentry hcodec hdecode
        | ok command =>
          have hread : h.read? f = some (entry, command) :=
            Host.read?_eq_some_iff.mpr ⟨hentry, codec, unread, hcodec, hdecode⟩
          rw [hnone] at hread
          cases hread

/-- **What a sequence does not ignore changes it**, as long as it is not over. -/
theorem Link.handle_not_ignored {h : Host} {s : Sequence} (hs : h.inFlight = some s)
    (hopen : s.isTerminal = false) {r : Except FrameError DecodeEvent}
    (hr : ¬ s.Ignores h.registry r) (l : Link π) :
    (Link.handle Host.accept r (l, h)).2.inFlight ≠ some s := by
  cases r with
  | error e => exact absurd (.malformed e) hr
  | ok event =>
    cases event with
    | pending => exact absurd .incomplete hr
    | outOfFrame noise => exact absurd (.noise noise) hr
    | frame frame =>
      cases frame with
      | nak => exact absurd .nak hr
      | can => exact absurd .can hr
      | ack =>
        have hstate : s.state = .waitingForAck := by
          by_contra hother
          exact hr (.unexpectedAck hother)
        exact Host.acknowledge_inFlight_ne hs hstate
      | data f =>
        obtain ⟨_, hdropped⟩ | ⟨queue, entry, command, hvalid, hread, heq⟩ :=
          Host.acceptData_eq f l h
        · rcases hdropped with hinvalid | hnone
          · exact absurd (.wrongChecksum hinvalid) hr
          · exact absurd (Sequence.ignores_of_read?_none hnone s) hr
        · have hid : f.commandId = s.commandId := by
            by_contra hother
            exact hr (.otherCommand hother)
          obtain ⟨hentry, _⟩ := Host.read?_eq_some_iff.mp hread
          have hanswer : f.kind = .request → entry.flow.hasCallback = true := by
            intro hkind
            by_contra hflow
            exact hr (.noCallback hkind hentry (Bool.eq_false_iff.mpr hflow))
          have hqueued : ({ h with queue := queue } : Host).inFlight = some s := hs
          show (Host.acceptData f (l, h)).2.inFlight ≠ some s
          rw [heq, hid]
          exact Host.route_inFlight_ne hqueued hopen hanswer command

/-- What a byte completes does not change the registry. -/
theorem Link.handle_registry (r : Except FrameError DecodeEvent) (l : Link π) (h : Host) :
    (Link.handle Host.accept r (l, h)).2.registry = h.registry := by
  cases r with
  | error e => rfl
  | ok event =>
    cases event with
    | pending => rfl
    | outOfFrame noise => rfl
    | frame frame =>
      obtain ⟨queue, inFlight, rejections, permit, heq⟩ := Host.accept_eq frame l h
      show (Host.accept frame (l, h)).2.registry = h.registry
      rw [heq]

/-! ## §4. Chunks -/

namespace Adapter

variable {a : Adapter π} {s : Sequence}

/-- A chunk of which a sequence ignores everything leaves it in flight as it is. -/
theorem receive_ignored (hl : a.link.Balanced) (hs : a.host.inFlight = some s)
    (hknows : a.host.registry.Knows s.commandId s.flow) (bytes : List UInt8)
    (hignored : ∀ r ∈ (a.link.decoder.feed (a.link.decoder.kept bytes)).1,
      s.Ignores a.host.registry r) :
    (a.receive bytes).host.inFlight = some s := by
  unfold receive
  split
  · exact hs
  · have hreceived := (Link.receive_induction
      (P := fun heard st => st.2.registry = a.host.registry
        ∧ ((∀ r ∈ heard, s.Ignores a.host.registry r) → st.2.inFlight = some s))
      Host.keepsIdle_accept ?_ bytes [] hl (s := a.host) ⟨rfl, fun _ => hs⟩).1
    · exact hreceived.2 hignored
    · -- the registry is carried along, for what is ignored depends on it
      intro heard l h byte _ ⟨hregistry, hkept⟩
      refine ⟨(Link.handle_registry _ _ h).trans hregistry, ?_⟩
      intro hall
      obtain ⟨hbefore, hlast⟩ := List.forall_mem_append.mp hall
      have hlast := List.forall_mem_singleton.mp hlast
      rw [← hregistry] at hlast hknows
      exact Link.handle_ignored (hkept hbefore) hknows hlast _

/-- A byte that completes what a sequence does not ignore changes it. -/
theorem receive_not_ignored (hlives : a.host.lifetime ≠ .gone) (hs : a.host.inFlight = some s)
    (hopen : s.isTerminal = false) {byte : UInt8}
    (hr : ¬ s.Ignores a.host.registry (a.link.decoder.push byte).1) :
    (a.receive [byte]).host.inFlight ≠ some s := by
  unfold receive
  rw [if_neg hlives]
  show (Link.receive Host.accept [byte] (a.link, a.host)).2.inFlight ≠ some s
  rw [Link.receive_singleton]
  exact Link.handle_not_ignored hs hopen hr _

/-- No chunk changes a sequence that is over. -/
theorem receive_of_isTerminal (hs : a.host.inFlight = some s) (hover : s.isTerminal = true)
    (bytes : List UInt8) : (a.receive bytes).host.inFlight = some s := by
  unfold receive
  split
  · exact hs
  · refine Link.receive_preserves (P := fun h : Host => h.inFlight = some s) ?_ bytes a.link
      a.host hs
    intro frame l h hs
    obtain ⟨t, ht, hears⟩ := Host.accept_hears frame l hs
    rw [ht, hears.eq_of_isTerminal hover]

end Adapter

/-! ## §5. The request in flight is undisturbed -/

/-- **Nothing disturbs the request in flight but its own answers.**  Wherever
    an adapter may have come to, and wherever in a chunk such bytes stand,
    what the sequence in flight ignores leaves it exactly as the bytes before
    them have left it.  Once it is complete or has failed, no chunks whatever
    change it.  Until then, a byte that completes anything that it does not
    ignore does change it. -/
theorem inFlight_undisturbed {m : Moment π} (hm : m.Reachable) :
    (∀ before after s,
      let reached := m.after (.receive before)
      let d := reached.adapter.link.decoder
      reached.host.inFlight = some s →
      (∀ r ∈ (d.feed (d.kept after)).1, s.Ignores m.host.registry r) →
      (m.after (.receive (before ++ after))).host.inFlight = some s)
    ∧ (∀ s, m.host.inFlight = some s → s.isTerminal = true → ∀ chunks : List (List UInt8),
      (m.run (chunks.map .receive)).host.inFlight = some s)
    ∧ ∀ s byte, m.host.inFlight = some s → s.isTerminal = false → m.host.lifetime ≠ .gone →
      ¬ s.Ignores m.host.registry (m.adapter.link.decoder.push byte).1 →
      (m.after (.receive [byte])).host.inFlight ≠ some s := by
  refine ⟨?_, ?_, ?_⟩
  · intro before after s reached d hs hignored
    show (m.adapter.receive (before ++ after)).host.inFlight = some s
    by_cases hclean : ∀ r ∈ (m.adapter.link.decoder.feed before).1, r.isOk = true
    · have hreached : reached.Reachable := hm.after (.receive before)
      have hregistry : reached.adapter.host.registry = m.host.registry :=
        m.adapter.receive_registry before
      rw [Adapter.receive_append hm.balanced before after hclean]
      rw [← hregistry] at hignored
      exact Adapter.receive_ignored hreached.balanced hs (hreached.registered.inFlight s hs)
        after hignored
    · -- a frame error comes before the bytes that are ignored, so they are dropped
      have herror : ∃ r ∈ (m.adapter.link.decoder.feed before).1, r.isOk = false := by
        simpa using hclean
      rw [Adapter.receive_append_of_error before after herror hm.balanced]
      exact hs
  · intro s hs hover chunks
    induction chunks generalizing m with
    | nil => exact hs
    | cons chunk rest ih =>
      exact ih (hm.after (.receive chunk)) (Adapter.receive_of_isTerminal hs hover chunk)
  · intro s byte hs hopen hlives hr
    exact Adapter.receive_not_ignored hlives hs hopen hr

/-- Data for node 5 have been sent. -/
def Moment.awaitsNodeFive : Moment ScriptedPort :=
  started.run [.send (.sendData 5 [0x20, 0x01] .ack 7), .look]

/-- What is in flight then. -/
def Sequence.sentToNodeFive : Sequence where
  request := ⟨9, .request, 0x13, [5, 2, 0x20, 0x01, 0x01, 7], 0xC5⟩
  flow := .responseAndCallback
  state := .waitingForAck
  attempt := 1
  maxRetries := 3
  response := none
  callback := none
  signals := [.waiting]

/-- Noise, a NAK, another ACK, a frame of an unknown command and a length byte
    that is too small. -/
def strayBytes : List UInt8 :=
  [0x42, 0x15, 0x06, 0x01, 0x03, 0x00, 0x99, 0x65, 0x01, 0x02]

/-- The ACK changes the sequence; what stands behind it in the same chunk
    leaves it as the ACK has left it, and once it has failed so does the ACK. -/
theorem inFlight_undisturbed_by_stray_bytes :
    Moment.awaitsNodeFive.Reachable
    ∧ (Moment.awaitsNodeFive.after (.receive [0x06])).host.inFlight ≠ some .sentToNodeFive
    ∧ (Moment.awaitsNodeFive.after (.receive ([0x06] ++ strayBytes))).host.inFlight
      = some { Sequence.sentToNodeFive with state := .waitingForResponse }
    ∧ ((Moment.awaitsNodeFive.after .stop).run
        ([[0x06], strayBytes].map .receive)).host.inFlight = some Sequence.sentToNodeFive.fail := by
  have hm : Moment.awaitsNodeFive.Reachable := Moment.reachable_started.run _
  have hsent : Moment.awaitsNodeFive.host.inFlight = some .sentToNodeFive := by decide
  refine ⟨hm, ?_, ?_, ?_⟩
  · refine (inFlight_undisturbed hm).2.2 _ 0x06 hsent rfl (by decide) ?_
    show ¬ Sequence.sentToNodeFive.Ignores _ (.ok (.frame .ack))
    intro hignored
    cases hignored with
    | unexpectedAck hstate => exact hstate rfl
  · refine (inFlight_undisturbed hm).1 [0x06] strayBytes _ (by decide) ?_
    have hanswers : (Decoder.idle.feed strayBytes).1
        = [.ok (.outOfFrame 0x42), .ok (.frame .nak), .ok (.frame .ack), .ok .pending,
          .ok .pending, .ok .pending, .ok .pending,
          .ok (.frame (.data ⟨3, .request, 0x99, [], 0x65⟩)), .ok .pending,
          .error (.invalidLength 0x02)] := rfl
    show ∀ r ∈ (Decoder.idle.feed strayBytes).1, _
    rw [hanswers]
    simp only [List.forall_mem_cons]
    exact ⟨.noise 0x42, .nak, .unexpectedAck (by decide), .incomplete, .incomplete, .incomplete,
      .incomplete, .noCodec (by decide), .incomplete, .malformed _, nofun⟩
  · have hfailed : (Moment.awaitsNodeFive.after .stop).host.inFlight
        = some Sequence.sentToNodeFive.fail := by decide
    exact (inFlight_undisturbed (hm.after .stop)).2.1 _ hfailed (by decide) [[0x06], strayBytes]

end ZWaveHost
