/-
  ZWaveHost.Proofs.Stream.Encoding — what is sent is what is received.

  A sender puts frames on the line that it has built, and the line may add
  bytes between them, as long as these begin no frame.  Each frame and each
  added byte is one segment of the stream (`Sent.exists_segment`), so the
  grammar gives the round trip: a payload may hold any byte, the type bytes
  included.

  Main statement: `feed_sent`.
-/
import ZWaveHost.Proofs.Stream.Decoding

namespace ZWaveHost

/-! ## §1. What is on the line -/

/-- The frames that a sender builds: control frames, and data frames of any
    payload that fits. -/
inductive Frame.IsBuilt : Frame → Prop where
  | ack : IsBuilt .ack
  | nak : IsBuilt .nak
  | can : IsBuilt .can
  | data {kind : FrameKind} {commandId : UInt8} {payload : List UInt8} {frame : DataFrame}
      (h : DataFrame.build kind commandId payload = .ok frame) : IsBuilt (.data frame)

/-- A frame that was sent, or a byte that was added between two frames. -/
inductive Sent where
  | frame (f : Frame) (h : f.IsBuilt)
  | noise (byte : UInt8) (h : ∀ type : FrameType, byte ≠ type.toByte)

namespace Sent

/-- Its bytes on the line. -/
def bytes : Sent → List UInt8
  | .frame f _ => f.toBytes
  | .noise byte _ => [byte]

/-- What the receiver is to report. -/
def event : Sent → DecodeEvent
  | .frame f _ => .frame f
  | .noise byte _ => .outOfFrame byte

/-- The answers to its bytes: the report answers the last one. -/
def answers (item : Sent) : List (Except FrameError DecodeEvent) :=
  List.replicate (item.bytes.length - 1) (.ok .pending) ++ [.ok item.event]

end Sent

/-! ## §2. Each item is a segment -/

/-- **Every item is a segment**, and its report is the segment's result. -/
theorem Sent.exists_segment (item : Sent) :
    ∃ s : Segment, s.bytes = item.bytes ∧ s.result = .ok item.event := by
  cases item with
  | frame f h =>
    cases h with
    | ack => exact ⟨.control .ack .ack rfl, rfl, rfl⟩
    | nak => exact ⟨.control .nak .nak rfl, rfl, rfl⟩
    | can => exact ⟨.control .can .can rfl, rfl, rfl⟩
    | data hbuild =>
      obtain ⟨hfits, hsum, -⟩ := DataFrame.fits_of_build hbuild
      exact ⟨.data _ hfits, (DataFrame.toBytes_eq_body hsum).symm, rfl⟩
  | noise byte h => exact ⟨.noise byte h, rfl, rfl⟩

/-- Its bytes, from idle. -/
theorem Decoder.feed_item (item : Sent) : idle.feed item.bytes = (item.answers, .idle) := by
  obtain ⟨s, hb, hr⟩ := item.exists_segment
  rw [← hb, feed_segment, Segment.answers, hr, hb]
  rfl

/-! ## §3. The round trip -/

theorem Sent.filter_answers (item : Sent) :
    item.answers.filter (!isPending ·) = [.ok item.event] := by
  cases item <;> simp [Sent.answers, Sent.event, isPending]

/-- **The receiver reports what was sent**: to a stream of frames that were
    built, with any bytes between them that begin no frame, the decoder never
    answers with an error; it reports exactly these frames and exactly these
    bytes, in order, each at its last byte, answers every other byte with
    `pending`, and is idle again. -/
theorem feed_sent (items : List Sent) :
    Decoder.idle.feed (items.flatMap Sent.bytes) = (items.flatMap Sent.answers, .idle)
      ∧ (Decoder.idle.feed (items.flatMap Sent.bytes)).1.filter (!isPending ·)
        = items.map fun item => .ok item.event := by
  have hfeed : Decoder.idle.feed (items.flatMap Sent.bytes)
      = (items.flatMap Sent.answers, .idle) := by
    induction items with
    | nil => rfl
    | cons item items ih =>
      rw [List.flatMap_cons, List.flatMap_cons, Decoder.feed_append, Decoder.feed_item, ih]
  refine ⟨hfeed, ?_⟩
  rw [hfeed, List.filter_flatMap]
  clear hfeed
  induction items with
  | nil => rfl
  | cons item items ih => rw [List.flatMap_cons, ih, item.filter_answers]; rfl

end ZWaveHost
