/-
  ZWaveHost.Proofs.Stream.Unfinished — frames that have begun, byte by byte.

  What a decoder has received since it was between frames is an unfinished
  frame of the grammar.  A byte makes it a longer one, or a segment
  (`push_cases`); nothing else can come of it.  A longer one has less to go,
  so the decoder gets between frames whatever comes in.

  Main facts: every decoder that a stream leads to has received an
  unfinished frame (`Decoder.exists_unfinished`), and at most 256 bytes end
  it (`exists_idle`).
-/
import ZWaveHost.Proofs.Stream.Decoding

namespace ZWaveHost

namespace Unfinished

/-! ## §1. One byte more -/

/-- What a byte makes of an unfinished frame: a longer one, or a segment. -/
inductive Pushed (u : Unfinished) (byte : UInt8) :
    Except FrameError DecodeEvent × Decoder → Prop
  | longer (v : Unfinished) (hbytes : v.bytes = u.bytes ++ [byte]) :
    Pushed u byte (.ok .pending, v.decoder)
  | ended (s : Segment) (hbytes : s.bytes = u.bytes ++ [byte]) : Pushed u byte (s.result, .idle)

/-- A segment that is one byte long is ended by that byte. -/
theorem pushed_single {s : Segment} {byte : UInt8} (hs : s.bytes = [byte]) :
    Unfinished.nothing.Pushed byte (Decoder.idle.push byte) := by
  have hfeed : ([(Decoder.idle.push byte).1], (Decoder.idle.push byte).2)
      = ([s.result], Decoder.idle) := by
    have hsegment := Decoder.feed_segment s
    rw [hs, Segment.answers, hs] at hsegment
    exact hsegment
  have hpush : Decoder.idle.push byte = (s.result, .idle) := by
    simp only [Prod.mk.injEq, List.cons.injEq, and_true] at hfeed
    exact Prod.ext hfeed.1 hfeed.2
  rw [hpush]
  exact .ended s hs

/-- **A byte makes an unfinished frame longer, or ends a segment.** -/
theorem push_cases (u : Unfinished) (byte : UInt8) : u.Pushed byte (u.decoder.push byte) := by
  cases u with
  | nothing =>
    by_cases hsof : byte = FrameType.sof.toByte
    · rw [hsof]
      exact .longer .sof rfl
    · obtain ⟨s, hs⟩ := exists_single_segment hsof
      exact pushed_single hs
  | sof =>
    by_cases hmin : byte < minFrameLength
    · have hpush : Decoder.started.push byte = (.error (.invalidLength byte), .idle) := by
        simp only [Decoder.push, if_pos hmin]
      rw [decoder, hpush]
      exact .ended (.short byte hmin) rfl
    · have hpush : Decoder.started.push byte = (.ok .pending, .reading byte []) := by
        simp only [Decoder.push, if_neg hmin]
      rw [decoder, hpush]
      have hpos : ([] : List UInt8).length < byte.toNat := by
        have hlength := DataFrame.not_lt_minFrameLength.mp hmin
        rw [List.length_nil]
        omega
      exact .longer (.body byte [] hmin hpos) rfl
  | body length read hmin hlen =>
    by_cases hshort : (read ++ [byte]).length < length.toNat
    · have hpush : (Decoder.reading length read).push byte
          = (.ok .pending, .reading length (read ++ [byte])) := by
        simp only [Decoder.push, if_pos hshort]
      rw [decoder, hpush]
      exact .longer (.body length (read ++ [byte]) hmin hshort) rfl
    · have hwhole : (read ++ [byte]).length = length.toNat := by
        rw [List.length_append, List.length_singleton] at hshort ⊢
        omega
      have hpush : (Decoder.reading length read).push byte
          = ((DataFrame.ofBody length (read ++ [byte])).map (.frame ∘ .data), .idle) := by
        simp only [Decoder.push, if_neg hshort]
      obtain ⟨s, hs⟩ := exists_framed_segment hmin hwhole
      -- the last answer to a whole frame is the segment's result
      have hresult : s.result
          = (DataFrame.ofBody length (read ++ [byte])).map (.frame ∘ .data) := by
        have hfeed := Decoder.feed_segment s
        rw [hs, Decoder.feed_framed hmin hwhole, Segment.answers] at hfeed
        have hlast := (List.append_inj' (Prod.mk.inj hfeed).1 rfl).2
        exact (List.singleton_inj.mp hlast).symm
      rw [decoder, hpush, ← hresult]
      exact .ended s hs

/-! ## §2. How far it is -/

/-- How many bytes are missing at most until the decoder is between frames. -/
def toGo : Unfinished → Nat
  | .nothing => 0
  | .sof => 256
  | .body length read _ _ => length.toNat - read.length

theorem toGo_le (u : Unfinished) : u.toGo ≤ 256 := by
  cases u with
  | nothing => exact Nat.zero_le _
  | sof => exact Nat.le_refl _
  | body length read _ _ =>
    have hmax := length.toNat_lt
    show length.toNat - read.length ≤ 256
    omega

/-- **Each byte of a frame that has begun brings its end nearer.** -/
theorem toGo_lt_of_longer {u v : Unfinished} {byte : UInt8} (hu : u ≠ .nothing)
    (hbytes : v.bytes = u.bytes ++ [byte]) : v.toGo < u.toGo := by
  cases u with
  | nothing => exact absurd rfl hu
  | sof =>
    cases v with
    | nothing => simp [bytes] at hbytes
    | sof => simp [bytes] at hbytes
    | body length read _ _ =>
      have hmax := length.toNat_lt
      show length.toNat - read.length < 256
      omega
  | body length read _ hlen =>
    cases v with
    | nothing => simp [bytes] at hbytes
    | sof => simp [bytes] at hbytes
    | body length' read' _ _ =>
      simp only [bytes, List.cons_append, List.cons.injEq, true_and] at hbytes
      obtain ⟨rfl, rfl⟩ := hbytes
      show length'.toNat - (read ++ [byte]).length < length'.toNat - read.length
      rw [List.length_append, List.length_singleton]
      omega

/-- **The decoder gets between frames**, whatever comes in. -/
theorem exists_idle (u : Unfinished) {next : List UInt8} (hnext : u.toGo ≤ next.length) :
    ∃ n, n ≤ u.toGo ∧ (u.decoder.feed (next.take n)).2 = .idle := by
  -- by induction on what comes in; a frame that goes on has less to go
  induction next generalizing u with
  | nil =>
    refine ⟨0, Nat.zero_le _, ?_⟩
    cases u with
    | nothing => rfl
    | sof => exact absurd hnext (by decide)
    | body length read _ hlen =>
      have hnone : length.toNat - read.length ≤ 0 := hnext
      omega
  | cons byte rest ih =>
    by_cases hu : u = .nothing
    · subst hu
      exact ⟨0, Nat.zero_le _, rfl⟩
    · have hcases := u.push_cases byte
      generalize hpush : u.decoder.push byte = pushed at hcases
      cases hcases with
      | longer v hbytes =>
        have hless := toGo_lt_of_longer hu hbytes
        rw [List.length_cons] at hnext
        obtain ⟨n, hn, hidle⟩ := ih v (by omega)
        refine ⟨n + 1, by omega, ?_⟩
        simp only [List.take_succ_cons, Decoder.feed, hpush]
        exact hidle
      | ended s hbytes =>
        have hpos : 0 < u.toGo := by
          cases u with
          | nothing => exact absurd rfl hu
          | sof => decide
          | body length read _ hlen =>
            show 0 < length.toNat - read.length
            omega
        refine ⟨1, hpos, ?_⟩
        simp only [List.take_succ_cons, List.take_zero, Decoder.feed, hpush]

end Unfinished

/-- What a decoder has received since it was between frames is an unfinished frame. -/
theorem Decoder.exists_unfinished (stream : List UInt8) :
    ∃ u : Unfinished, u.decoder = (Decoder.idle.feed stream).2 := by
  obtain ⟨c, rfl⟩ := exists_cut stream
  exact ⟨c.rest, by rw [feed_cut]⟩

end ZWaveHost
