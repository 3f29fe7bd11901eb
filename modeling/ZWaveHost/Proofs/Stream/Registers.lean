/-
  ZWaveHost.Proofs.Stream.Registers — the decoder in three registers.

  A decoder that keeps its state in registers has to clear them itself: one
  says what it waits for, one holds the length byte, one the bytes that have
  come in since.  A byte that leads to an error is taken in first, and the
  registers are cleared after it.  Such a decoder goes in step with the one
  that has no more state than it needs (`registers_feed`), so what is in its
  registers is always an unfinished frame.

  Main statement: the registers are sound after any stream; so a body is read
  only when it is whole, only two errors can come of a byte, and at most 256
  bytes lead back between frames (`registers_sound`).
-/
import ZWaveHost.Proofs.Stream.Unfinished

namespace ZWaveHost

/-! ## §1. Whole bodies -/

namespace DataFrame

/-- A body is whole: it is as long as its length byte says, which is no less
    than a frame needs. -/
def WholeBody (length : UInt8) (body : List UInt8) : Prop :=
  3 ≤ length.toNat ∧ body.length = length.toNat

/-- A body becomes whole with its last byte. -/
theorem wholeBody_concat {length byte : UInt8} {read : List UInt8}
    (hmin : ¬ length < minFrameLength) (hlen : read.length < length.toNat)
    (hlast : ¬ (read ++ [byte]).length < length.toNat) :
    WholeBody length (read ++ [byte]) := by
  rw [List.length_append, List.length_singleton] at hlast
  refine ⟨not_lt_minFrameLength.mp hmin, ?_⟩
  rw [List.length_append, List.length_singleton]
  omega

/-- **A whole body is read in range**: every byte that is looked up is there,
    and so is every byte of the payload. -/
theorem ofBody_eq_getElem {length : UInt8} {body : List UInt8} (h : WholeBody length body) :
    ∃ (hkind : 0 < body.length) (hid : 1 < body.length) (hsum : length.toNat - 1 < body.length),
      2 ≤ length.toNat - 1 ∧ DataFrame.ofBody length body
        = (FrameKind.ofByte body[0]).map fun kind => ⟨length, kind, body[1],
            (body.take (length.toNat - 1)).drop 2, body[length.toNat - 1]⟩ := by
  obtain ⟨hmin, hlen⟩ := h
  have hkind : 0 < body.length := by omega
  have hid : 1 < body.length := by omega
  have hsum : length.toNat - 1 < body.length := by omega
  refine ⟨hkind, hid, hsum, by omega, ?_⟩
  have hlong : ¬ body.length < length.toNat := by omega
  have hget {i : Nat} (hi : i < body.length) : body.getD i 0 = body[i] := by
    rw [List.getD_eq_getElem?_getD, List.getElem?_eq_getElem hi, Option.getD_some]
  unfold DataFrame.ofBody
  rw [if_neg (not_lt_minFrameLength.mpr hmin), if_neg hlong, hget hkind, hget hid, hget hsum]
  cases FrameKind.ofByte body[0] <;> rfl

/-- **A whole body is refused** only for its kind byte. -/
theorem exists_unknownKind {length : UInt8} {body : List UInt8} (h : WholeBody length body)
    {e : FrameError} (he : DataFrame.ofBody length body = .error e) :
    ∃ kind, 1 < kind ∧ e = .unknownKind kind := by
  obtain ⟨hkind, _, _, -, hread⟩ := ofBody_eq_getElem h
  rw [hread] at he
  unfold FrameKind.ofByte at he
  split at he
  · cases he
  split at he
  · cases he
  · next h0 h1 =>
    refine ⟨body[0], ?_, (Except.error.inj he).symm⟩
    -- neither 0 nor 1
    have hne0 : body[0].toNat ≠ 0 := fun hzero => h0 (UInt8.toNat_inj.mp hzero)
    have hne1 : body[0].toNat ≠ 1 := fun hone => h1 (UInt8.toNat_inj.mp hone)
    rw [UInt8.lt_iff_toNat_lt, show (1 : UInt8).toNat = 1 from rfl]
    omega

end DataFrame

/-! ## §2. Registers -/

/-- What a decoder waits for. -/
inductive Awaited where
  | frame
  | length
  | body
  deriving DecidableEq

/-- The state of a decoder that clears its registers itself. -/
structure Registers where
  awaited : Awaited
  /-- The length byte of the frame that is being received. -/
  expected : UInt8
  /-- The bytes that have come in since the length byte. -/
  body : List UInt8
  deriving DecidableEq

/-- A way to read a frame from the bytes behind its length byte. -/
abbrev BodyReader := UInt8 → List UInt8 → Except FrameError DataFrame

namespace Registers

/-- Nothing has come in. -/
def new : Registers := ⟨.frame, 0, []⟩

/-- Clears the registers. -/
def reset (_ : Registers) : Registers := new

/-- Takes in a byte, and clears the registers behind a frame. -/
def consume (read : BodyReader) (r : Registers) (byte : UInt8) :
    Except FrameError DecodeEvent × Registers :=
  match r.awaited with
  | .frame =>
    match FrameType.ofByte? byte with
    | some .sof => (.ok .pending, { r with awaited := .length })
    | some type => (.ok (((Frame.control? type).map .frame).getD (.outOfFrame byte)), r)
    | none => (.ok (.outOfFrame byte), r)
  | .length =>
    if byte < minFrameLength then (.error (.invalidLength byte), r)
    else (.ok .pending, ⟨.body, byte, []⟩)
  | .body =>
    let r := { r with body := r.body ++ [byte] }
    if r.body.length < r.expected.toNat then (.ok .pending, r)
    else
      match read r.expected r.body with
      | .ok frame => (.ok (.frame (.data frame)), r.reset)
      | .error e => (.error e, r)

/-- Takes in a byte, and clears the registers behind an error. -/
def push (read : BodyReader) (r : Registers) (byte : UInt8) :
    Except FrameError DecodeEvent × Registers :=
  match r.consume read byte with
  | (.ok event, r) => (.ok event, r)
  | (.error e, r) => (.error e, r.reset)

/-- Takes in bytes, one after the other. -/
def feed (read : BodyReader) (r : Registers) :
    List UInt8 → List (Except FrameError DecodeEvent) × Registers
  | [] => ([], r)
  | byte :: rest =>
    let (result, r) := r.push read byte
    let (results, r) := r.feed read rest
    (result :: results, r)

/-- An error leaves nothing in the registers. -/
theorem push_of_error {read : BodyReader} {r : Registers} {byte : UInt8} {e : FrameError}
    (he : (r.push read byte).1 = .error e) : (r.push read byte).2 = new := by
  unfold push at he ⊢
  rcases hconsumed : r.consume read byte with ⟨result, taken⟩
  rw [hconsumed] at he
  cases result with
  | ok event => cases he
  | error e' => rfl

/-- Nothing is left in the registers between frames, and while a body comes in
    some of it is missing. -/
structure Sound (r : Registers) : Prop where
  cleared : r.awaited ≠ .body → r.body = [] ∧ r.expected = 0
  missing : r.awaited = .body → 3 ≤ r.expected.toNat ∧ r.body.length < r.expected.toNat

end Registers

/-! ## §3. In step -/

namespace Decoder

/-- What is in the registers of a decoder. -/
def registers : Decoder → Registers
  | .idle => ⟨.frame, 0, []⟩
  | .started => ⟨.length, 0, []⟩
  | .reading length body => ⟨.body, length, body⟩

/-- **A byte is taken in alike**, whether the state has to be cleared or not. -/
theorem registers_push (d : Decoder) (byte : UInt8) :
    d.registers.push DataFrame.ofBody byte = ((d.push byte).1, (d.push byte).2.registers) := by
  cases d with
  | idle =>
    unfold Registers.push Registers.consume Decoder.push pushIdle
    dsimp only [registers]
    cases FrameType.ofByte? byte with
    | none => rfl
    | some type => cases type <;> rfl
  | started =>
    unfold Registers.push Registers.consume Decoder.push
    dsimp only [registers]
    by_cases hmin : byte < minFrameLength
    · simp only [if_pos hmin]
      rfl
    · simp only [if_neg hmin]
  | reading length body =>
    unfold Registers.push Registers.consume Decoder.push
    dsimp only [registers]
    by_cases hshort : (body ++ [byte]).length < length.toNat
    · simp only [if_pos hshort]
    · simp only [if_neg hshort]
      cases DataFrame.ofBody length (body ++ [byte]) <;> rfl

/-- **The two decoders go in step.** -/
theorem registers_feed (d : Decoder) (bytes : List UInt8) :
    d.registers.feed DataFrame.ofBody bytes = ((d.feed bytes).1, (d.feed bytes).2.registers) := by
  induction bytes generalizing d with
  | nil => rfl
  | cons byte rest ih => simp only [Registers.feed, Decoder.feed, registers_push, ih]

end Decoder

namespace Unfinished

theorem sound_registers (u : Unfinished) : u.decoder.registers.Sound := by
  cases u with
  | nothing => exact ⟨fun _ => ⟨rfl, rfl⟩, nofun⟩
  | sof => exact ⟨fun _ => ⟨rfl, rfl⟩, nofun⟩
  | body length read hmin hlen =>
    exact ⟨fun hbody => absurd rfl hbody,
      fun _ => ⟨DataFrame.not_lt_minFrameLength.mp hmin, hlen⟩⟩

/-- **Only whole bodies are read**: what a reader does with others does not
    matter. -/
theorem push_congr {read read' : BodyReader}
    (hread : ∀ length body, DataFrame.WholeBody length body → read length body = read' length body)
    (u : Unfinished) (byte : UInt8) :
    u.decoder.registers.push read byte = u.decoder.registers.push read' byte := by
  cases u with
  | nothing => rfl
  | sof => rfl
  | body length more hmin hlen =>
    unfold Registers.push Registers.consume
    dsimp only [Unfinished.decoder, Decoder.registers]
    by_cases hshort : (more ++ [byte]).length < length.toNat
    · simp only [if_pos hshort]
    · have hwhole := DataFrame.wholeBody_concat hmin hlen hshort
      simp only [if_neg hshort, hread _ _ hwhole]

theorem feed_congr {read : BodyReader}
    (hread : ∀ length body, DataFrame.WholeBody length body →
      read length body = DataFrame.ofBody length body)
    (u : Unfinished) (bytes : List UInt8) :
    u.decoder.registers.feed read bytes = u.decoder.registers.feed DataFrame.ofBody bytes := by
  -- by induction on the bytes; each leaves an unfinished frame for the next
  induction bytes generalizing u with
  | nil => rfl
  | cons byte rest ih =>
    have hcases := u.push_cases byte
    simp only [Registers.feed, push_congr hread, Decoder.registers_push]
    generalize u.decoder.push byte = pushed at hcases
    cases hcases with
    | longer v _ => rw [ih v]
    | ended s _ =>
      have hrest := ih .nothing
      rw [show Decoder.idle = Unfinished.nothing.decoder from rfl, hrest]

/-- **Which errors a byte can lead to**: a length byte that is too small, or at
    the end of a body a kind byte that means nothing. -/
theorem error_of_push (u : Unfinished) {byte : UInt8} {e : FrameError}
    (he : (u.decoder.push byte).1 = .error e) :
    (byte < 3 ∧ e = .invalidLength byte) ∨ ∃ kind, 1 < kind ∧ e = .unknownKind kind := by
  cases u with
  | nothing => cases he
  | sof =>
    simp only [decoder, Decoder.push] at he
    split at he
    · next hmin => exact .inl ⟨hmin, (Except.error.inj he).symm⟩
    · cases he
  | body length read hmin hlen =>
    simp only [decoder, Decoder.push] at he
    split at he
    · cases he
    · next hshort =>
      have hwhole := DataFrame.wholeBody_concat hmin hlen hshort
      right
      cases hread : DataFrame.ofBody length (read ++ [byte]) with
      | ok frame =>
        rw [hread] at he
        cases he
      | error e' =>
        rw [hread] at he
        obtain rfl := Except.error.inj he
        exact DataFrame.exists_unknownKind hwhole hread

end Unfinished

/-! ## §4. Whatever comes in -/

/-- **The registers are sound after every stream.**

    (1) They go in step with the decoder: the same answers, the same state.
    (2) Outside a body its registers are empty, and within one some of it is
        missing.
    (3) So only whole bodies are read: a reader that does anything else with
        other bodies leads to the same.
    (4) A whole body is read in range, and refused only for its kind byte.
    (5) A further byte leads to no error but a length that is too small, or a
        kind byte that means nothing, and then the registers are as new.
    (6) At most 256 further bytes lead back between frames. -/
theorem registers_sound (stream : List UInt8) :
    let run := Registers.new.feed DataFrame.ofBody stream
    let r := run.2
    (run = ((Decoder.idle.feed stream).1, (Decoder.idle.feed stream).2.registers))
      ∧ r.Sound
      ∧ (∀ read : BodyReader, (∀ length body, DataFrame.WholeBody length body →
          read length body = DataFrame.ofBody length body) →
        Registers.new.feed read stream = run)
      ∧ (∀ length body, DataFrame.WholeBody length body →
        (∃ (hkind : 0 < body.length) (hid : 1 < body.length)
            (hsum : length.toNat - 1 < body.length),
          2 ≤ length.toNat - 1 ∧ DataFrame.ofBody length body
            = (FrameKind.ofByte body[0]).map fun kind => ⟨length, kind, body[1],
                (body.take (length.toNat - 1)).drop 2, body[length.toNat - 1]⟩)
          ∧ ∀ e, DataFrame.ofBody length body = .error e →
            ∃ kind, 1 < kind ∧ e = .unknownKind kind)
      ∧ (∀ byte e, (r.push DataFrame.ofBody byte).1 = .error e →
        ((byte < 3 ∧ e = .invalidLength byte) ∨ ∃ kind, 1 < kind ∧ e = .unknownKind kind)
          ∧ (r.push DataFrame.ofBody byte).2 = Registers.new)
      ∧ ∀ next : List UInt8, next.length = 256 →
        ∃ n, n ≤ 256 ∧ (r.feed DataFrame.ofBody (next.take n)).2 = Registers.new := by
  intro run r
  have hrun : run = ((Decoder.idle.feed stream).1, (Decoder.idle.feed stream).2.registers) :=
    Decoder.idle.registers_feed stream
  obtain ⟨u, hu⟩ := Decoder.exists_unfinished stream
  have hr : r = u.decoder.registers := by
    rw [hu]
    exact congrArg Prod.snd hrun
  refine ⟨hrun, ?_, ?_, ?_, ?_, ?_⟩
  · rw [hr]
    exact u.sound_registers
  · intro read hread
    exact Unfinished.nothing.feed_congr hread stream
  · intro length body hwhole
    exact ⟨DataFrame.ofBody_eq_getElem hwhole, fun e he => DataFrame.exists_unknownKind hwhole he⟩
  · intro byte e he
    refine ⟨?_, Registers.push_of_error he⟩
    rw [hr, Decoder.registers_push] at he
    exact u.error_of_push he
  · intro next hnext
    have henough : u.toGo ≤ next.length := by
      rw [hnext]
      exact u.toGo_le
    obtain ⟨n, hn, hidle⟩ := u.exists_idle henough
    refine ⟨n, Nat.le_trans hn u.toGo_le, ?_⟩
    rw [hr, Decoder.registers_feed, hidle]
    rfl

end ZWaveHost
