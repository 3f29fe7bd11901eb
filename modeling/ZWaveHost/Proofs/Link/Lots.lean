/-
  ZWaveHost.Proofs.Link.Lots — what becomes of the bytes that come in.

  Every byte ends up in one lot: in a segment that is read to its end, behind
  a frame error in its chunk, or in a frame that is dropped before its end.
  What is in no lot yet belongs to the frame that has begun
  (`Decoder.begun`), so bytes that come in are divided without a loss
  (`Divided`).

  Main fact: a segment is as long as what it comes to says
  (`length_flatMap_bytes`).
-/
import ZWaveHost.Proofs.Link.Chunking
import ZWaveHost.Proofs.Stream.Unfinished

namespace ZWaveHost

/-! ## §1. Lots -/

/-- Bytes that have come in, and what has become of them. -/
inductive Lot where
  /-- They have been read to the end of a segment, and came to this. -/
  | read (bytes : List UInt8) (result : Except FrameError DecodeEvent)
  /-- They stood behind a frame error in a chunk. -/
  | discarded (bytes : List UInt8)
  /-- They began a frame that was dropped before its end. -/
  | dropped (bytes : List UInt8)

namespace Lot

/-- The bytes of a lot. -/
def bytes : Lot → List UInt8
  | .read bytes _ => bytes
  | .discarded bytes => bytes
  | .dropped bytes => bytes

/-- What has been read of a lot. -/
def result? : Lot → Option (Except FrameError DecodeEvent)
  | .read _ result => some result
  | _ => none

/-- What has been read of some lots. -/
def results (lots : List Lot) : List (Except FrameError DecodeEvent) := lots.filterMap result?

@[simp] theorem results_nil : results [] = [] := rfl

@[simp] theorem results_read (bytes : List UInt8) (result : Except FrameError DecodeEvent)
    (rest : List Lot) : results (.read bytes result :: rest) = result :: results rest := rfl

@[simp] theorem results_discarded (bytes : List UInt8) (rest : List Lot) :
    results (.discarded bytes :: rest) = results rest := rfl

@[simp] theorem results_dropped (bytes : List UInt8) (rest : List Lot) :
    results (.dropped bytes :: rest) = results rest := rfl

@[simp] theorem results_append (lots more : List Lot) :
    results (lots ++ more) = results lots ++ results more := List.filterMap_append

/-- The bytes of a malformed frame. -/
def malformedBytes : Lot → List UInt8
  | .read bytes (.error _) => bytes
  | _ => []

def discardedBytes : Lot → List UInt8
  | .discarded bytes => bytes
  | _ => []

def droppedBytes : Lot → List UInt8
  | .dropped bytes => bytes
  | _ => []

/-- A lot that is read is a segment of the grammar, and one that is dropped an
    unfinished frame. -/
def Sound : Lot → Prop
  | .read bytes result => ∃ s : Segment, s.bytes = bytes ∧ s.result = result
  | .discarded _ => True
  | .dropped bytes => ∃ u : Unfinished, u ≠ .nothing ∧ u.bytes = bytes

end Lot

namespace Decoder

/-- The bytes of the frame that has begun. -/
def begun : Decoder → List UInt8
  | .idle => []
  | .started => [FrameType.sof.toByte]
  | .reading length body => FrameType.sof.toByte :: length :: body

/-- The segment that a byte ends. -/
def lot? (d : Decoder) (byte : UInt8) : Option Lot :=
  match (d.push byte).1 with
  | .ok .pending => none
  | result => some (.read (d.begun ++ [byte]) result)

/-- What becomes of a chunk. -/
def lots (d : Decoder) : List UInt8 → List Lot
  | [] => []
  | byte :: rest =>
    match d.push byte with
    | (.ok _, next) => (d.lot? byte).toList ++ next.lots rest
    | (.error _, _) => (d.lot? byte).toList ++ [.discarded rest]

/-- What becomes of a frame that has begun, when the decoder is made to go on
    from elsewhere. -/
def lost (d : Decoder) (next : Decoder) : List Lot :=
  if d.inFrame && !next.inFrame then [.dropped d.begun] else []

theorem lots_cons_of_ok {d : Decoder} {byte : UInt8} {event : DecodeEvent}
    (h : (d.push byte).1 = .ok event) (rest : List UInt8) :
    d.lots (byte :: rest) = (d.lot? byte).toList ++ (d.push byte).2.lots rest := by
  rw [lots]
  rcases hpush : d.push byte with ⟨result, next⟩
  rw [hpush] at h
  obtain rfl : result = .ok event := h
  rfl

theorem lots_cons_of_error {d : Decoder} {byte : UInt8} {e : FrameError}
    (h : (d.push byte).1 = .error e) (rest : List UInt8) :
    d.lots (byte :: rest) = (d.lot? byte).toList ++ [.discarded rest] := by
  rw [lots]
  rcases hpush : d.push byte with ⟨result, next⟩
  rw [hpush] at h
  obtain rfl : result = .error e := h
  rfl

theorem lot?_of_pending {d : Decoder} {byte : UInt8} (h : (d.push byte).1 = .ok .pending) :
    d.lot? byte = none := by
  unfold lot?
  rw [h]

theorem lot?_of_ended {d : Decoder} {byte : UInt8} (h : (d.push byte).1 ≠ .ok .pending) :
    d.lot? byte = some (.read (d.begun ++ [byte]) (d.push byte).1) := by
  unfold lot?
  split
  · next hpending => exact absurd hpending h
  · rfl

end Decoder

theorem Unfinished.begun_decoder (u : Unfinished) : u.decoder.begun = u.bytes := by
  cases u <;> rfl

/-! ## §2. Bytes are divided -/

/-- From one decoder to another, the bytes that come in fall into lots, and
    those that are left have begun a frame. -/
structure Divided (lots : List Lot) (bytes : List UInt8) (before after : Decoder) : Prop where
  bytes : before.begun ++ bytes = lots.flatMap Lot.bytes ++ after.begun
  sound : ∀ lot ∈ lots, lot.Sound
  /-- The decoder has received what it says. -/
  rest : ∃ u : Unfinished, u.decoder = after

namespace Divided

theorem nil {d : Decoder} (hd : ∃ u : Unfinished, u.decoder = d) : Divided [] [] d d where
  bytes := List.append_nil _
  sound := nofun
  rest := hd

theorem append {lots more : List Lot} {bytes later : List UInt8} {d d' d'' : Decoder}
    (h : Divided lots bytes d d') (hmore : Divided more later d' d'') :
    Divided (lots ++ more) (bytes ++ later) d d'' where
  bytes := by
    rw [← List.append_assoc, h.bytes, List.append_assoc, hmore.bytes, List.flatMap_append,
      List.append_assoc]
  sound := by
    intro lot hmem
    rcases List.mem_append.mp hmem with hlot | hlot
    · exact h.sound lot hlot
    · exact hmore.sound lot hlot
  rest := hmore.rest

/-- **A byte ends a segment, or makes the frame that has begun longer.** -/
theorem byte {d : Decoder} (hd : ∃ u : Unfinished, u.decoder = d) (byte : UInt8) :
    Divided (d.lot? byte).toList [byte] d (d.push byte).2 := by
  obtain ⟨u, rfl⟩ := hd
  have hbegun := u.begun_decoder
  have hcases := u.push_cases byte
  generalize hpush : u.decoder.push byte = pushed at hcases ⊢
  cases hcases with
  | longer v hbytes =>
    have hnone : u.decoder.lot? byte = none := Decoder.lot?_of_pending (by rw [hpush])
    refine ⟨?_, ?_, v, rfl⟩
    · rw [hnone, hbegun, v.begun_decoder, hbytes]
      rfl
    · rw [hnone]
      exact nofun
  | ended s hbytes =>
    have hlot : u.decoder.lot? byte = some (.read (u.bytes ++ [byte]) s.result) := by
      rw [Decoder.lot?_of_ended (by rw [hpush]; exact s.result_ne_pending), hbegun, hpush]
    refine ⟨?_, ?_, .nothing, rfl⟩
    · rw [hlot, hbegun]
      simp [Lot.bytes, Decoder.begun]
    · rw [hlot]
      intro lot hmem
      rw [List.mem_singleton.mp hmem]
      exact ⟨s, hbytes, rfl⟩

/-- What stands behind a frame error is no beginning of a frame. -/
theorem discarded (bytes : List UInt8) : Divided [.discarded bytes] bytes .idle .idle where
  bytes := by simp [Decoder.begun, Lot.bytes]
  sound := by
    intro lot hmem
    rw [List.mem_singleton.mp hmem]
    trivial
  rest := ⟨.nothing, rfl⟩

/-- **A frame that has begun is kept or dropped** as a whole. -/
theorem lost {d next : Decoder} (hd : ∃ u : Unfinished, u.decoder = d)
    (hnext : next = d ∨ next = .idle) : Divided (d.lost next) [] d next := by
  rcases hnext with rfl | rfl
  · have hnone : next.lost next = [] := by
      unfold Decoder.lost
      cases next.inFrame <;> rfl
    rw [hnone]
    exact .nil hd
  · obtain ⟨u, rfl⟩ := hd
    by_cases hu : u = .nothing
    · subst hu
      exact .nil ⟨.nothing, rfl⟩
    · have hframe : u.decoder.lost .idle = [.dropped u.bytes] := by
        cases u with
        | nothing => exact absurd rfl hu
        | sof => rfl
        | body length read _ _ => rfl
      rw [hframe]
      refine ⟨?_, ?_, .nothing, rfl⟩
      · rw [u.begun_decoder]
        simp [Decoder.begun, Lot.bytes]
      · intro lot hmem
        rw [List.mem_singleton.mp hmem]
        exact ⟨u, hu, rfl⟩

end Divided

/-! ## §3. How long they are -/

/-- How many bytes the data frames among some frames take on the line: SOF, the
    length byte, and as many as that says. -/
def Frame.dataSize : List Frame → Nat
  | [] => 0
  | .data f :: rest => f.length.toNat + 2 + dataSize rest
  | _ :: rest => dataSize rest

theorem Frame.dataSize_append (frames more : List Frame) :
    dataSize (frames ++ more) = dataSize frames + dataSize more := by
  induction frames with
  | nil => exact (Nat.zero_add _).symm
  | cons frame rest ih =>
    cases frame <;> simp only [List.cons_append, dataSize, ih, Nat.add_assoc]

namespace Lot

/-- What some lots come to in bytes: one for each control frame and each byte of
    noise, two more than its length byte says for each data frame, and those
    of malformed frames, of discarded ends of chunks and of dropped frames. -/
def total (lots : List Lot) : Nat :=
  let frames := (results lots).filterMap completed?
  frames.countP (·.type = .ack) + frames.countP (·.type = .nak) + frames.countP (·.type = .can)
    + (results lots).countP isNoise + Frame.dataSize frames
    + (lots.flatMap malformedBytes).length + (lots.flatMap discardedBytes).length
    + (lots.flatMap droppedBytes).length

theorem total_append (lots more : List Lot) : total (lots ++ more) = total lots + total more := by
  simp only [total, results_append, List.filterMap_append, List.countP_append,
    Frame.dataSize_append, List.flatMap_append, List.length_append]
  omega

/-- A segment is as long as its result says, if it is not malformed. -/
theorem total_segment (s : Segment) : total [.read s.bytes s.result] = s.bytes.length := by
  cases s with
  | control type frame h =>
    cases type with
    | sof => cases h
    | ack => obtain rfl := Option.some.inj h; rfl
    | nak => obtain rfl := Option.some.inj h; rfl
    | can => obtain rfl := Option.some.inj h; rfl
  | noise byte h => rfl
  | short length h => rfl
  | data frame h =>
    have hlen : frame.length.toNat = frame.payload.length + 3 := h
    simp [total, Segment.result, Segment.bytes, completed?, isNoise, Frame.type, Frame.dataSize,
      malformedBytes, discardedBytes, droppedBytes, frame.length_body, hlen]
  | unknownKind length kind rest hmin hlen hkind =>
    simp [total, Segment.result, Segment.bytes, List.filterMap_cons, completed?, isNoise,
      Frame.dataSize, malformedBytes, discardedBytes, droppedBytes]

/-- **Every byte in the lots is accounted for.** -/
theorem length_flatMap_bytes {lots : List Lot} (hsound : ∀ lot ∈ lots, lot.Sound) :
    (lots.flatMap bytes).length = total lots := by
  induction lots with
  | nil => rfl
  | cons lot rest ih =>
    have hrest := ih fun other hother => hsound other (List.mem_cons_of_mem _ hother)
    have hlot : lot.bytes.length = total [lot] := by
      cases lot with
      | read bytes result =>
        obtain ⟨s, rfl, rfl⟩ := hsound _ List.mem_cons_self
        exact (total_segment s).symm
      | discarded bytes =>
        simp [total, Lot.bytes, Frame.dataSize, malformedBytes, discardedBytes, droppedBytes]
      | dropped bytes =>
        simp [total, Lot.bytes, Frame.dataSize, malformedBytes, discardedBytes, droppedBytes]
    rw [List.flatMap_cons, List.length_append, hlot, hrest, ← total_append]
    rfl

end Lot

end ZWaveHost
