/-
  ZWaveHost.Proofs.Run.Reply — how the host answers what it receives.

  A malformed frame is answered as soon as it is found, a whole data frame
  when it is delivered; nothing else is answered.  The line is free both
  times, so the answer goes out at once.

  Main statement: whatever the host is doing, what it writes while it
  receives is one ACK for each data frame whose checksum is right and one NAK
  for each that is wrong or malformed, in order (`written_in_reply`).
-/
import ZWaveHost.Proofs.Port.Transcript
import ZWaveHost.Proofs.Run.Invariant

namespace ZWaveHost

variable {π : Type} [Port π]

/-! ## §1. Answers -/

/-- The control frame that answers what a byte completes. -/
def reply? : Except FrameError DecodeEvent → Option Frame
  | .ok (.frame (.data f)) => some (if f.isValid then .ack else .nak)
  | .error _ => some .nak
  | .ok _ => none

/-- The control frames that answer what is heard. -/
def replies (heard : List (Except FrameError DecodeEvent)) : List Frame := heard.filterMap reply?

/-- The bytes of some frames, one after the other. -/
def bytesOf (frames : List Frame) : List UInt8 := frames.flatMap Frame.toBytes

theorem bytesOf_replies_append (heard more : List (Except FrameError DecodeEvent)) :
    bytesOf (replies (heard ++ more)) = bytesOf (replies heard) ++ bytesOf (replies more) := by
  unfold bytesOf replies
  rw [List.filterMap_append, List.flatMap_append]

/-! ## §2. One byte -/

/-- A frame that is delivered is answered over the free line. -/
theorem Host.accept_written (t : Transcript π) (frame : Frame) {l : Link π} (h : Host)
    (hl : l.Idle) (haccepts : t.Accepts l.port) :
    t.Accepts (Host.accept frame (l, h)).1.port
      ∧ t.written (Host.accept frame (l, h)).1.port
        = t.written l.port ++ bytesOf (replies [.ok (.frame frame)]) := by
  have hsilent : t.written l.port = t.written l.port ++ bytesOf [] := (List.append_nil _).symm
  cases frame with
  | ack => exact ⟨haccepts, hsilent⟩
  | nak => exact ⟨haccepts, hsilent⟩
  | can => exact ⟨haccepts, hsilent⟩
  | data f =>
    show t.Accepts (Host.acceptData f (l, h)).1.port
      ∧ t.written (Host.acceptData f (l, h)).1.port = _
    obtain ⟨received, heq⟩ := Host.acceptData_link f l h
    obtain ⟨hstill, hwritten⟩ := hl.send_written t (if f.isValid then .ack else .nak) haccepts
    have hbytes : bytesOf (replies [.ok (.frame (.data f))])
        = (if f.isValid then Frame.ack else .nak).toBytes := List.append_nil _
    rw [heq, hbytes]
    exact ⟨hstill, hwritten⟩

/-- **A byte is answered by what it completes**, and not otherwise. -/
theorem Link.handle_written (t : Transcript π) {l : Link π} (hl : l.Balanced) (byte : UInt8)
    (h : Host) (haccepts : t.Accepts l.port) :
    t.Accepts (Link.handle Host.accept (l.decoder.push byte).1 (l.tookIn byte, h)).1.port
      ∧ t.written (Link.handle Host.accept (l.decoder.push byte).1 (l.tookIn byte, h)).1.port
        = t.written l.port ++ bytesOf (replies [(l.decoder.push byte).1]) := by
  have hbalanced : (l.tookIn byte).Balanced := hl.receiveByte byte
  have hdecoder := l.tookIn_decoder byte
  rw [← l.tookIn_port byte] at haccepts ⊢
  have hsilent : t.written (l.tookIn byte).port = t.written (l.tookIn byte).port ++ bytesOf [] :=
    (List.append_nil _).symm
  cases hresult : (l.decoder.push byte).1 with
  | error e =>
    have hidle := hbalanced.idle (hdecoder.trans (Decoder.push_idle_of_error hresult))
    exact hidle.send_written t .nak haccepts
  | ok event =>
    cases event with
    | pending => exact ⟨haccepts, hsilent⟩
    | outOfFrame noise => exact ⟨haccepts, hsilent⟩
    | frame frame =>
      have hidle := hbalanced.idle (hdecoder.trans (Decoder.push_idle_of_frame hresult))
      exact Host.accept_written t frame h hidle haccepts

/-- What is answered with a NAK does nothing to the host. -/
theorem Link.handle_host_of_nak {r : Except FrameError DecodeEvent} (hnak : reply? r = some .nak)
    (l : Link π) (h : Host) : (Link.handle Host.accept r (l, h)).2 = h := by
  cases r with
  | error e => rfl
  | ok event =>
    cases event with
    | pending => cases hnak
    | outOfFrame noise => cases hnak
    | frame frame =>
      cases frame with
      | ack => cases hnak
      | nak => cases hnak
      | can => cases hnak
      | data f =>
        have hinvalid : f.isValid = false := by
          cases hvalid : f.isValid with
          | false => rfl
          | true => simp [reply?, hvalid] at hnak
        show (Host.acceptData f (l, h)).2 = h
        unfold Host.acceptData
        dsimp only
        rw [hinvalid]
        rfl

/-! ## §3. Chunks -/

/-- A chunk is answered by what its bytes complete, up to a frame error. -/
theorem Adapter.receive_written (t : Transcript π) {a : Adapter π} (hl : a.link.Balanced)
    (hlives : a.host.lifetime ≠ .gone) (haccepts : t.Accepts a.link.port) (bytes : List UInt8) :
    t.Accepts (a.receive bytes).link.port
      ∧ t.written (a.receive bytes).link.port = t.written a.link.port
        ++ bytesOf (replies (a.link.decoder.feed (a.link.decoder.kept bytes)).1) := by
  unfold Adapter.receive
  rw [if_neg hlives]
  have hinit : t.Accepts a.link.port
      ∧ t.written a.link.port = t.written a.link.port ++ bytesOf (replies []) :=
    ⟨haccepts, (List.append_nil _).symm⟩
  refine (Link.receive_induction
    (P := fun heard s => t.Accepts s.1.port
      ∧ t.written s.1.port = t.written a.link.port ++ bytesOf (replies heard))
    Host.keepsIdle_accept ?_ bytes [] hl (s := a.host) hinit).1
  intro heard l h byte hbalanced hs
  obtain ⟨htaken, hwritten⟩ := hs
  obtain ⟨hstill, hmore⟩ := Link.handle_written t hbalanced byte h htaken
  refine ⟨hstill, ?_⟩
  rw [hmore, hwritten, bytesOf_replies_append, List.append_assoc]

theorem Moment.run_receive_written (t : Transcript π) {m : Moment π}
    (hl : m.adapter.link.Balanced) (hlives : m.host.lifetime ≠ .gone)
    (haccepts : t.Accepts m.adapter.link.port) (chunks : List (List UInt8)) :
    t.written (m.run (chunks.map .receive)).adapter.link.port
      = t.written m.adapter.link.port ++ bytesOf (replies
        (m.adapter.link.decoder.feed (m.adapter.link.decoder.keptOf chunks)).1) := by
  -- the decoder goes on where the chunk has left it, whatever was written meanwhile
  induction chunks generalizing m with
  | nil => exact (List.append_nil _).symm
  | cons chunk rest ih =>
    obtain ⟨hstill, hwritten⟩ := Adapter.receive_written t hl hlives haccepts chunk
    have hnext : (m.after (.receive chunk)).host.lifetime ≠ .gone := by
      show (m.adapter.receive chunk).host.lifetime ≠ .gone
      rw [Adapter.receive_lifetime]
      exact hlives
    have hrest := ih (Moment.balanced_receive hl chunk) hnext hstill
    have hdecoder : (m.after (.receive chunk)).adapter.link.decoder = _ :=
      Adapter.receive_decoder hl hlives chunk
    rw [hdecoder] at hrest
    show t.written ((m.after (.receive chunk)).run (rest.map .receive)).adapter.link.port = _
    rw [hrest]
    show t.written (m.adapter.receive chunk).link.port ++ _ = _
    rw [hwritten, Decoder.keptOf, Decoder.feed_append, bytesOf_replies_append, List.append_assoc]

/-! ## §4. All that is written -/

/-- **Exactly one answer to each data frame**, and none to anything else.
    Whatever request is in flight, however full the queue is and whatever the
    registry holds, what is written while chunks come in is one ACK for each
    data frame with the right checksum and one NAK for each with a wrong one
    and for each malformed frame, in their order; what a chunk holds behind a
    malformed frame is not heard.  What is answered with a NAK does nothing
    to the host. -/
theorem written_in_reply (t : Transcript π) {m : Moment π} (hm : m.Reachable)
    (hlives : m.host.lifetime ≠ .gone) (haccepts : t.Accepts m.adapter.link.port)
    (chunks : List (List UInt8)) :
    let d := m.adapter.link.decoder
    t.written (m.run (chunks.map .receive)).adapter.link.port
        = t.written m.adapter.link.port ++ bytesOf (replies (d.feed (d.keptOf chunks)).1)
    ∧ ∀ before byte, (∀ r ∈ (d.feed before).1, r.isOk = true) →
        reply? ((d.feed before).2.push byte).1 = some .nak →
        (m.after (.receive (before ++ [byte]))).host = (m.after (.receive before)).host := by
  intro d
  have hl := hm.balanced
  refine ⟨Moment.run_receive_written t hl hlives haccepts chunks, ?_⟩
  intro before byte hclean hnak
  have hreceived : (m.adapter.receive before).link.decoder = (d.feed before).2 := by
    rw [Adapter.receive_decoder hl hlives, Decoder.kept_eq_self hclean]
  have hstill : (m.adapter.receive before).host.lifetime ≠ .gone := by
    rw [Adapter.receive_lifetime]
    exact hlives
  show (m.adapter.receive (before ++ [byte])).host = (m.adapter.receive before).host
  rw [Adapter.receive_append hl before [byte] hclean]
  generalize m.adapter.receive before = a at hreceived hstill
  unfold Adapter.receive
  rw [if_neg hstill]
  rw [← hreceived] at hnak
  show (Link.receive Host.accept [byte] (a.link, a.host)).2 = a.host
  rw [Link.receive_singleton]
  exact Link.handle_host_of_nak hnak _ a.host

/-- A frame of an unknown command in two chunks, one with a wrong checksum
    behind an ACK and some noise, and a length byte that is too small, with
    another ACK behind it. -/
def unfamiliarChunks : List (List UInt8) :=
  [[0x01, 0x03, 0x00], [0x99, 0x65, 0x06, 0x42], [0x01, 0x03, 0x00, 0x99, 0x00],
   [0x01, 0x02, 0x06]]

/-- They are answered with an ACK and two NAKs, behind the NAK of the start. -/
theorem written_in_reply_to_unfamiliar :
    Moment.started.Reachable
    ∧ Moment.started.host.lifetime ≠ .gone
    ∧ ScriptedPort.transcript.Accepts Moment.started.adapter.link.port
    ∧ ScriptedPort.transcript.written
        (Moment.started.run (unfamiliarChunks.map .receive)).adapter.link.port
      = [0x15] ++ [0x06, 0x15, 0x15] := by
  have hm := Moment.reachable_started
  have hlives : Moment.started.host.lifetime ≠ .gone := by decide
  have haccepts : ScriptedPort.transcript.Accepts Moment.started.adapter.link.port :=
    ⟨rfl, rfl, rfl⟩
  have hwritten :=
    (written_in_reply ScriptedPort.transcript hm hlives haccepts unfamiliarChunks).1
  refine ⟨hm, hlives, haccepts, hwritten.trans ?_⟩
  decide

end ZWaveHost
