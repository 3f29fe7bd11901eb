/-
  ZWaveHost.Proofs.Stream.Segment — the grammar of a received byte stream.

  A stream is a row of segments: control bytes, noise bytes, beginnings that
  end at a length byte which is too small, data frames, and frames whose kind
  byte means nothing.  After the last segment a frame may have begun.

      stream  =  segment₁ … segmentₙ  unfinished

  A payload may hold any byte: only SOF and the length byte decide where a
  segment ends.  Each segment has a result, which answers its last byte.

  Main statement: every stream can be cut into segments (`exists_cut`).
-/
import ZWaveHost.Decoder
import ZWaveHost.Proofs.Frame.Bytes

namespace ZWaveHost

/-! ## §1. Segments and cuts -/

/-- A piece of a stream that the decoder takes as a whole. -/
inductive Segment where
  /-- An ACK, NAK or CAN byte. -/
  | control (type : FrameType) (frame : Frame) (h : Frame.control? type = some frame)
  /-- A byte that begins no frame. -/
  | noise (byte : UInt8) (h : ∀ type : FrameType, byte ≠ type.toByte)
  /-- SOF and a length byte below the smallest. -/
  | short (length : UInt8) (h : length < minFrameLength)
  /-- SOF, a length byte, and as many bytes as it says, the first a kind byte. -/
  | data (frame : DataFrame) (h : frame.Fits)
  /-- The same with a first byte that is no kind byte. -/
  | unknownKind (length kind : UInt8) (rest : List UInt8) (hmin : ¬ length < minFrameLength)
      (hlen : length.toNat = rest.length + 1) (hkind : ∀ k : FrameKind, kind ≠ k.toByte)

namespace Segment

/-- The bytes of a segment. -/
def bytes : Segment → List UInt8
  | .control type _ _ => [type.toByte]
  | .noise byte _ => [byte]
  | .short length _ => [FrameType.sof.toByte, length]
  | .data frame _ => FrameType.sof.toByte :: frame.length :: frame.body
  | .unknownKind length kind rest _ _ _ => FrameType.sof.toByte :: length :: kind :: rest

/-- What a segment comes to. -/
def result : Segment → Except FrameError DecodeEvent
  | .control _ frame _ => .ok (.frame frame)
  | .noise byte _ => .ok (.outOfFrame byte)
  | .short length _ => .error (.invalidLength length)
  | .data frame _ => .ok (.frame (.data frame))
  | .unknownKind _ kind _ _ _ _ => .error (.unknownKind kind)

/-- The answers to the bytes of a segment: its result answers its last byte. -/
def answers (s : Segment) : List (Except FrameError DecodeEvent) :=
  List.replicate (s.bytes.length - 1) (.ok .pending) ++ [s.result]

end Segment

/-- A frame that has begun and is not complete, or nothing. -/
inductive Unfinished where
  | nothing
  /-- SOF. -/
  | sof
  /-- SOF, a length byte and fewer bytes than it says. -/
  | body (length : UInt8) (read : List UInt8) (hmin : ¬ length < minFrameLength)
      (hlen : read.length < length.toNat)

namespace Unfinished

/-- The bytes of a frame that has begun. -/
def bytes : Unfinished → List UInt8
  | .nothing => []
  | .sof => [FrameType.sof.toByte]
  | .body length read _ _ => FrameType.sof.toByte :: length :: read

/-- The decoder that has received them. -/
def decoder : Unfinished → Decoder
  | .nothing => .idle
  | .sof => .started
  | .body length read _ _ => .reading length read

/-- None of these bytes completes anything. -/
def answers (u : Unfinished) : List (Except FrameError DecodeEvent) :=
  List.replicate u.bytes.length (.ok .pending)

end Unfinished

/-- A way to cut a stream. -/
structure Cut where
  segments : List Segment
  rest : Unfinished

namespace Cut

/-- The stream that is cut. -/
def bytes (c : Cut) : List UInt8 := c.segments.flatMap Segment.bytes ++ c.rest.bytes

/-- The answers to the bytes of the stream, one for each. -/
def answers (c : Cut) : List (Except FrameError DecodeEvent) :=
  c.segments.flatMap Segment.answers ++ c.rest.answers

/-- A cut with one more segment in front. -/
def cons (s : Segment) (c : Cut) : Cut := ⟨s :: c.segments, c.rest⟩

@[simp] theorem bytes_cons (s : Segment) (c : Cut) : (cons s c).bytes = s.bytes ++ c.bytes := by
  simp [cons, bytes]

@[simp] theorem answers_cons (s : Segment) (c : Cut) :
    (cons s c).answers = s.answers ++ c.answers := by
  simp [cons, answers]

end Cut

/-! ## §2. Every stream can be cut -/

/-- SOF, a length byte and enough bytes begin a segment. -/
theorem exists_framed_segment {length : UInt8} {body : List UInt8}
    (hmin : ¬ length < minFrameLength) (hlen : body.length = length.toNat) :
    ∃ s : Segment, s.bytes = FrameType.sof.toByte :: length :: body := by
  cases body with
  | nil =>
    rw [UInt8.lt_iff_toNat_lt, ← hlen] at hmin
    exact absurd (by decide) hmin
  | cons kind rest =>
    by_cases hkind : ∃ k : FrameKind, kind = k.toByte
    · obtain ⟨k, rfl⟩ := hkind
      obtain ⟨f, rfl, hfits, hbody⟩ := DataFrame.exists_of_kind (k := k) hmin hlen rfl
      exact ⟨.data f hfits, by rw [Segment.bytes, hbody]⟩
    · exact ⟨.unknownKind length kind rest hmin hlen.symm (not_exists.mp hkind), rfl⟩

/-- A byte that is not SOF is a segment. -/
theorem exists_single_segment {byte : UInt8} (h : byte ≠ FrameType.sof.toByte) :
    ∃ s : Segment, s.bytes = [byte] := by
  cases ht : FrameType.ofByte? byte with
  | none => exact ⟨.noise byte (FrameType.ofByte?_eq_none_iff.mp ht), rfl⟩
  | some type =>
    have hbyte := FrameType.toByte_of_ofByte? ht
    cases type with
    | sof => exact absurd hbyte h
    | ack => exact ⟨.control .ack .ack rfl, by rw [hbyte]; rfl⟩
    | nak => exact ⟨.control .nak .nak rfl, by rw [hbyte]; rfl⟩
    | can => exact ⟨.control .can .can rfl, by rw [hbyte]; rfl⟩

/-- **Every stream can be cut.** -/
theorem exists_cut (stream : List UInt8) : ∃ c : Cut, c.bytes = stream := by
  -- the first segment comes off, and what is left is shorter
  match stream with
  | [] => exact ⟨⟨[], .nothing⟩, rfl⟩
  | byte :: rest =>
    by_cases hsof : byte = FrameType.sof.toByte
    · subst hsof
      match rest with
      | [] => exact ⟨⟨[], .sof⟩, rfl⟩
      | length :: body =>
        by_cases hmin : length < minFrameLength
        · obtain ⟨c, hc⟩ := exists_cut body
          exact ⟨.cons (.short length hmin) c, by rw [Cut.bytes_cons, hc]; rfl⟩
        by_cases hlen : body.length < length.toNat
        · exact ⟨⟨[], .body length body hmin hlen⟩, rfl⟩
        · have hwhole : (body.take length.toNat).length = length.toNat := by
            rw [List.length_take]
            omega
          obtain ⟨s, hs⟩ := exists_framed_segment hmin hwhole
          obtain ⟨c, hc⟩ := exists_cut (body.drop length.toNat)
          refine ⟨.cons s c, ?_⟩
          rw [Cut.bytes_cons, hs, hc, List.cons_append, List.cons_append, List.take_append_drop]
    · obtain ⟨s, hs⟩ := exists_single_segment hsof
      obtain ⟨c, hc⟩ := exists_cut rest
      exact ⟨.cons s c, by rw [Cut.bytes_cons, hs, hc]; rfl⟩
termination_by stream.length
decreasing_by
  all_goals simp only [List.length_cons, List.length_drop]
  all_goals omega

end ZWaveHost
