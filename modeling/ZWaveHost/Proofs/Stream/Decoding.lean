/-
  ZWaveHost.Proofs.Stream.Decoding — the decoder follows the grammar.

  From idle, the decoder answers every byte of a segment but the last with
  `pending`, the last with the segment's result, and is idle again
  (`feed_segment`).  So the answers to a stream are those of any of its cuts
  (`feed_cut`).  As they show where the segments end and tell them apart, a
  stream has one cut only (`Cut.eq_of_bytes`).

  Main statement: `exists_cut_feed`.
-/
import ZWaveHost.Proofs.Stream.Segment

namespace ZWaveHost

/-! ## §1. Feeding a segment -/

namespace Decoder

theorem feed_append (d : Decoder) (a b : List UInt8) :
    d.feed (a ++ b) = ((d.feed a).1 ++ ((d.feed a).2.feed b).1, ((d.feed a).2.feed b).2) := by
  induction a generalizing d with
  | nil => rfl
  | cons byte rest ih =>
    simp only [List.cons_append, feed, ih]

/-- Bytes short of the length are kept. -/
theorem feed_reading (length : UInt8) (more : List UInt8) :
    ∀ read : List UInt8, read.length + more.length < length.toNat →
      (reading length read).feed more
        = (List.replicate more.length (.ok .pending), reading length (read ++ more)) := by
  induction more with
  | nil =>
    intro read _
    rw [List.append_nil]
    rfl
  | cons byte rest ih =>
    intro read h
    have hshort : (read ++ [byte]).length < length.toNat := by
      simp only [List.length_append, List.length_cons, List.length_nil] at h ⊢
      omega
    have hrest : (read ++ [byte]).length + rest.length < length.toNat := by
      simp only [List.length_append, List.length_cons, List.length_nil] at h ⊢
      omega
    have hpush : (reading length read).push byte
        = (.ok .pending, reading length (read ++ [byte])) := by
      simp only [push, if_pos hshort]
    simp only [feed, hpush, ih _ hrest, List.append_assoc, List.singleton_append,
      List.length_cons, List.replicate_succ]

/-- **A body that is as long as its length byte says is handed over as a
    whole**, and the decoder is idle whatever it holds. -/
theorem feed_body {length : UInt8} {body : List UInt8} (hne : body ≠ [])
    (hlen : body.length = length.toNat) :
    (reading length []).feed body
      = (List.replicate (body.length - 1) (.ok .pending)
          ++ [(DataFrame.ofBody length body).map (.frame ∘ .data)], .idle) := by
  have hsplit := List.dropLast_concat_getLast hne
  have hpos := List.length_pos_iff.mpr hne
  have hshort : ([] : List UInt8).length + body.dropLast.length < length.toNat := by
    rw [List.length_dropLast, List.length_nil]
    omega
  have hlast : (reading length body.dropLast).push (body.getLast hne)
      = ((DataFrame.ofBody length body).map (.frame ∘ .data), .idle) := by
    have hwhole : ¬ body.length < length.toNat := by omega
    simp only [push, hsplit, if_neg hwhole]
  conv => lhs; rw [← hsplit]
  rw [feed_append, feed_reading length _ [] hshort, List.nil_append, List.length_dropLast]
  simp only [feed, hlast]

/-- SOF and a good length byte, from idle. -/
theorem feed_sof_length {length : UInt8} (hmin : ¬ length < minFrameLength)
    (body : List UInt8) :
    idle.feed (FrameType.sof.toByte :: length :: body)
      = (.ok .pending :: .ok .pending :: ((reading length []).feed body).1,
          ((reading length []).feed body).2) := by
  have hsof : idle.push FrameType.sof.toByte = (.ok .pending, started) := rfl
  have hlength : started.push length = (.ok .pending, reading length []) := by
    simp only [push, if_neg hmin]
  simp only [feed, hsof, hlength]

/-- A whole frame, from idle. -/
theorem feed_framed {length : UInt8} {body : List UInt8} (hmin : ¬ length < minFrameLength)
    (hlen : body.length = length.toNat) :
    idle.feed (FrameType.sof.toByte :: length :: body)
      = (List.replicate (body.length + 1) (.ok .pending)
          ++ [(DataFrame.ofBody length body).map (.frame ∘ .data)], .idle) := by
  have hpos : 0 < body.length := by
    have hlength := DataFrame.not_lt_minFrameLength.mp hmin
    omega
  have hsucc : body.length + 1 = body.length - 1 + 1 + 1 := by omega
  rw [feed_sof_length hmin, feed_body (List.length_pos_iff.mp hpos) hlen, hsucc,
    List.replicate_succ, List.replicate_succ]
  rfl

/-- **A segment is answered with its result, at its last byte**, and leaves
    the decoder idle. -/
theorem feed_segment (s : Segment) : idle.feed s.bytes = (s.answers, .idle) := by
  cases s with
  | control type frame h =>
    cases type with
    | sof => cases h
    | ack => obtain rfl := Option.some.inj h; rfl
    | nak => obtain rfl := Option.some.inj h; rfl
    | can => obtain rfl := Option.some.inj h; rfl
  | noise byte h =>
    have hpush : idle.push byte = (.ok (.outOfFrame byte), idle) := by
      simp only [push, pushIdle, FrameType.ofByte?_eq_none_iff.mpr h]
    simp only [Segment.bytes, feed, hpush]
    rfl
  | short length h =>
    have hpush : started.push length = (.error (.invalidLength length), idle) := by
      simp only [push, if_pos h]
    have hsof : idle.push FrameType.sof.toByte = (.ok .pending, started) := rfl
    simp only [Segment.bytes, feed, hsof, hpush]
    rfl
  | data frame h =>
    have hlen : frame.body.length = frame.length.toNat := by
      rw [DataFrame.length_body]
      exact h.symm
    have hmin : ¬ frame.length < minFrameLength :=
      DataFrame.not_lt_minFrameLength.mpr (by rw [← hlen, DataFrame.length_body]; omega)
    simp only [Segment.bytes, Segment.answers, feed_framed hmin hlen, DataFrame.ofBody_eq_ok h]
    rfl
  | unknownKind length kind rest hmin hlen hkind =>
    have hwhole : (kind :: rest).length = length.toNat := hlen.symm
    simp only [Segment.bytes, Segment.answers, feed_framed hmin hwhole,
      DataFrame.ofBody_eq_unknownKind hmin hlen hkind]
    rfl

/-- A frame that has begun is answered with nothing. -/
theorem feed_unfinished (u : Unfinished) : idle.feed u.bytes = (u.answers, u.decoder) := by
  cases u with
  | nothing => rfl
  | sof => rfl
  | body length read hmin hlen =>
    have hshort : ([] : List UInt8).length + read.length < length.toNat := by simpa using hlen
    rw [Unfinished.bytes, feed_sof_length hmin, feed_reading length read [] hshort]
    rfl

/-- **The answers to a stream are those of its cut.** -/
theorem feed_cut (c : Cut) : idle.feed c.bytes = (c.answers, c.rest.decoder) := by
  obtain ⟨segments, rest⟩ := c
  induction segments with
  | nil => exact feed_unfinished rest
  | cons s segments ih =>
    show idle.feed (Cut.cons s ⟨segments, rest⟩).bytes = ((Cut.cons s ⟨segments, rest⟩).answers, _)
    rw [Cut.bytes_cons, Cut.answers_cons, feed_append, feed_segment, ih]

end Decoder

/-! ## §2. One cut only -/

theorem Segment.result_ne_pending (s : Segment) : s.result ≠ .ok .pending := by
  cases s <;> simp [Segment.result]

theorem Segment.bytes_ne_nil (s : Segment) : s.bytes ≠ [] := by
  cases s <;> simp [Segment.bytes]

/-- Segments with the same bytes and the same result are the same: the
    results tell the sorts of segments apart. -/
theorem Segment.eq_of_bytes_result {s t : Segment} (hb : s.bytes = t.bytes)
    (hr : s.result = t.result) : s = t := by
  cases s with
  | control type frame h =>
    cases t with
    | control type' frame' h' =>
      obtain rfl := FrameType.toByte_injective (List.singleton_inj.mp hb)
      obtain rfl := Option.some.inj (h.symm.trans h')
      rfl
    | data frame' h' =>
      -- SOF begins no control frame
      have htype := (List.cons.inj hb).2
      simp at htype
    | _ => simp [Segment.result] at hr
  | noise byte h =>
    cases t with
    | noise byte' h' =>
      obtain rfl := List.singleton_inj.mp hb
      rfl
    | _ => simp [Segment.result] at hr
  | short length h =>
    cases t with
    | short length' h' =>
      simp only [Segment.bytes, List.cons.injEq, and_true, true_and] at hb
      subst hb
      rfl
    | _ => simp [Segment.result] at hr
  | data frame h =>
    cases t with
    | data frame' h' =>
      simp only [Segment.result, Except.ok.injEq, DecodeEvent.frame.injEq, Frame.data.injEq] at hr
      subst hr
      rfl
    | control type' frame' h' =>
      have htype := (List.cons.inj hb).2
      simp at htype
    | _ => simp [Segment.result] at hr
  | unknownKind length kind rest hmin hlen hkind =>
    cases t with
    | unknownKind length' kind' rest' hmin' hlen' hkind' =>
      simp only [Segment.bytes, List.cons.injEq, true_and] at hb
      obtain ⟨rfl, rfl, rfl⟩ := hb
      rfl
    | _ => simp [Segment.result] at hr

theorem Unfinished.eq_of_bytes {u v : Unfinished} (h : u.bytes = v.bytes) : u = v := by
  cases u <;> cases v <;> simp_all [Unfinished.bytes]

/-- Two rows that each begin with some `pending` and then something else begin
    with equally many, and with the same thing. -/
theorem replicate_pending_inj {r t : Except FrameError DecodeEvent} (hr : r ≠ .ok .pending)
    (ht : t ≠ .ok .pending) {xs ys : List (Except FrameError DecodeEvent)} (m n : Nat)
    (h : List.replicate m (.ok .pending) ++ r :: xs = List.replicate n (.ok .pending) ++ t :: ys) :
    m = n ∧ r = t := by
  induction m generalizing n with
  | zero =>
    cases n with
    | zero => exact ⟨rfl, (List.cons.inj h).1⟩
    | succ n => exact absurd (List.cons.inj h).1 hr
  | succ m ih =>
    cases n with
    | zero => exact absurd (List.cons.inj h).1.symm ht
    | succ n =>
      obtain ⟨hmn, hrt⟩ := ih n (List.cons.inj h).2
      exact ⟨by rw [hmn], hrt⟩

/-- Nothing but `pending` answers a frame that has begun, so no segment is there. -/
theorem answers_cons_ne_pending (s : Segment) (c : Cut) (n : Nat) :
    (Cut.cons s c).answers ≠ List.replicate n (.ok .pending) := by
  intro h
  have hmem : s.result ∈ (Cut.cons s c).answers := by
    simp [Segment.answers]
  rw [h] at hmem
  exact s.result_ne_pending (List.eq_of_mem_replicate hmem)

/-- **No stream can be cut in two ways.** -/
theorem Cut.eq_of_bytes {c d : Cut} (h : c.bytes = d.bytes) : c = d := by
  obtain ⟨segments, rest⟩ := c
  obtain ⟨segments', rest'⟩ := d
  have hanswers : ∀ {a b : Cut}, a.bytes = b.bytes → a.answers = b.answers := by
    intro a b hab
    have ha := Decoder.feed_cut a
    rw [hab, Decoder.feed_cut b] at ha
    exact (Prod.mk.inj ha).1.symm
  induction segments generalizing segments' with
  | nil =>
    cases segments' with
    | nil =>
      obtain rfl := Unfinished.eq_of_bytes h
      rfl
    | cons t segments' =>
      exact absurd (hanswers h).symm (answers_cons_ne_pending t ⟨segments', rest'⟩ _)
  | cons s segments ih =>
    cases segments' with
    | nil => exact absurd (hanswers h) (answers_cons_ne_pending s ⟨segments, rest⟩ _)
    | cons t segments' =>
      have hb : s.bytes ++ (⟨segments, rest⟩ : Cut).bytes
          = t.bytes ++ (⟨segments', rest'⟩ : Cut).bytes := by
        rw [← Cut.bytes_cons, ← Cut.bytes_cons]
        exact h
      have ha : s.answers ++ (⟨segments, rest⟩ : Cut).answers
          = t.answers ++ (⟨segments', rest'⟩ : Cut).answers := by
        rw [← Cut.answers_cons, ← Cut.answers_cons]
        exact hanswers h
      simp only [Segment.answers, List.append_assoc, List.singleton_append] at ha
      -- the first answer that is not `pending` shows where the segment ends and what it is
      obtain ⟨hlen, hresult⟩ :=
        replicate_pending_inj s.result_ne_pending t.result_ne_pending _ _ ha
      have hs := List.length_pos_iff.mpr s.bytes_ne_nil
      have ht := List.length_pos_iff.mpr t.bytes_ne_nil
      obtain ⟨hst, hrest⟩ := List.append_inj hb (by omega)
      rw [Segment.eq_of_bytes_result hst hresult]
      have hcut := ih segments' hrest
      rw [Cut.mk.injEq] at hcut ⊢
      exact ⟨by rw [hcut.1], hcut.2⟩

/-! ## §3. What a stream comes to -/

/-- Whether an answer says that nothing is complete. -/
def isPending : Except FrameError DecodeEvent → Bool
  | .ok .pending => true
  | _ => false

theorem Segment.filter_answers (s : Segment) :
    s.answers.filter (!isPending ·) = [s.result] := by
  cases s <;> simp [Segment.answers, Segment.result, isPending]

/-- The results of the segments are what is left of the answers without `pending`. -/
theorem Cut.filter_answers (c : Cut) :
    c.answers.filter (!isPending ·) = c.segments.map Segment.result := by
  have hrest : c.rest.answers.filter (!isPending ·) = [] := by
    simp [Unfinished.answers, isPending]
  rw [Cut.answers, List.filter_append, hrest, List.append_nil, List.filter_flatMap]
  induction c.segments with
  | nil => rfl
  | cons s segments ih => rw [List.flatMap_cons, ih, s.filter_answers]; rfl

/-- **A stream can be cut in exactly one way, and the decoder's results are
    those of the segments.**  The answers, one for each byte, put each result
    at the last byte of its segment; what is left after the last segment is
    in the decoder. -/
theorem exists_cut_feed (stream : List UInt8) :
    ∃ c : Cut, (∀ d : Cut, d.bytes = stream ↔ d = c)
      ∧ (Decoder.idle.feed stream).1 = c.answers
      ∧ (Decoder.idle.feed stream).1.filter (!isPending ·) = c.segments.map Segment.result
      ∧ (Decoder.idle.feed stream).2 = c.rest.decoder := by
  obtain ⟨c, rfl⟩ := exists_cut stream
  have hfeed := Decoder.feed_cut c
  refine ⟨c, fun d => ⟨Cut.eq_of_bytes, fun h => by rw [h]⟩, ?_, ?_, ?_⟩
  · rw [hfeed]
  · rw [hfeed]
    exact c.filter_answers
  · rw [hfeed]

end ZWaveHost
