/-
  ZWaveHost.Proofs.Link.Reception — chunks are taken in byte by byte.

  A chunk counts up to its first frame error; the bytes behind it are
  dropped (`Decoder.kept`).  What is left is answered as the decoder answers
  it: `Link.handle` says what each answer leads to.

  Main fact: the answers to the bytes that are kept, and what each of them
  leads to, are all there is to a chunk (`receive_induction`), wherever it is
  cut (`receive_append`).
-/
import ZWaveHost.Proofs.Link.Balance
import ZWaveHost.Proofs.Stream.Decoding

namespace ZWaveHost

/-! ## §1. The bytes that count -/

namespace Decoder

/-- The bytes of a chunk up to its first frame error. -/
def kept (d : Decoder) : List UInt8 → List UInt8
  | [] => []
  | byte :: rest =>
    match d.push byte with
    | (.ok _, d) => byte :: d.kept rest
    | (.error _, _) => [byte]

/-- The bytes of some chunks that count, in a row. -/
def keptOf (d : Decoder) : List (List UInt8) → List UInt8
  | [] => []
  | chunk :: rest => d.kept chunk ++ (d.feed (d.kept chunk)).2.keptOf rest

theorem kept_cons_of_ok {d : Decoder} {byte : UInt8} {event : DecodeEvent}
    (h : (d.push byte).1 = .ok event) (rest : List UInt8) :
    d.kept (byte :: rest) = byte :: (d.push byte).2.kept rest := by
  rw [kept]
  rcases hpush : d.push byte with ⟨result, d'⟩
  rw [hpush] at h
  obtain rfl : result = .ok event := h
  rfl

theorem kept_cons_of_error {d : Decoder} {byte : UInt8} {e : FrameError}
    (h : (d.push byte).1 = .error e) (rest : List UInt8) : d.kept (byte :: rest) = [byte] := by
  rw [kept]
  rcases hpush : d.push byte with ⟨result, d'⟩
  rw [hpush] at h
  obtain rfl : result = .error e := h
  rfl

/-- Bytes without a frame error all count. -/
theorem kept_eq_self {d : Decoder} {bytes : List UInt8}
    (hclean : ∀ r ∈ (d.feed bytes).1, r.isOk = true) : d.kept bytes = bytes := by
  induction bytes generalizing d with
  | nil => rfl
  | cons byte rest ih =>
    simp only [feed, List.mem_cons, forall_eq_or_imp] at hclean
    obtain ⟨hbyte, hrest⟩ := hclean
    cases hresult : (d.push byte).1 with
    | error e => rw [hresult] at hbyte; cases hbyte
    | ok event => rw [kept_cons_of_ok hresult, ih hrest]

end Decoder

namespace Link

variable {π : Type} {σ : Type}

/-! ## §2. One byte -/

/-- The link that has taken in a byte, before anything comes of it. -/
def tookIn (l : Link π) (byte : UInt8) : Link π := (l.receiveByte byte).2

theorem tookIn_decoder (l : Link π) (byte : UInt8) :
    (l.tookIn byte).decoder = (l.decoder.push byte).2 := by
  unfold tookIn receiveByte
  dsimp only
  split <;> rfl

theorem tookIn_port (l : Link π) (byte : UInt8) : (l.tookIn byte).port = l.port := by
  unfold tookIn receiveByte
  dsimp only
  split <;> rfl

/-- A byte drops no command. -/
theorem tookIn_dropped (l : Link π) (byte : UInt8) :
    (l.tookIn byte).received.dropped = l.received.dropped := by
  unfold tookIn receiveByte
  dsimp only
  cases (l.decoder.push byte).1 with
  | error e => rfl
  | ok event =>
    cases event with
    | pending => rfl
    | outOfFrame noise => rfl
    | frame frame => cases frame <;> rfl

variable [Port π]

/-- What an answer of the decoder leads to. -/
def handle (deliver : Frame → Link π × σ → Link π × σ) (result : Except FrameError DecodeEvent)
    (s : Link π × σ) : Link π × σ :=
  match result with
  | .ok (.frame frame) => deliver frame s
  | .ok _ => s
  | .error _ => ((s.1.send .nak).2, s.2)

variable {deliver : Frame → Link π × σ → Link π × σ}

theorem receive_cons_of_ok {l : Link π} {byte : UInt8} {event : DecodeEvent}
    (h : (l.decoder.push byte).1 = .ok event) (rest : List UInt8) (s : σ) :
    receive deliver (byte :: rest) (l, s)
      = receive deliver rest (handle deliver (.ok event) (l.tookIn byte, s)) := by
  rw [receive]
  unfold tookIn receiveByte
  dsimp only
  rw [h]
  cases event <;> rfl

theorem receive_cons_of_error {l : Link π} {byte : UInt8} {e : FrameError}
    (h : (l.decoder.push byte).1 = .error e) (rest : List UInt8) (s : σ) :
    receive deliver (byte :: rest) (l, s) = handle deliver (.error e) (l.tookIn byte, s) := by
  rw [receive]
  unfold tookIn receiveByte
  dsimp only
  rw [h]
  rfl

/-- A chunk of one byte. -/
theorem receive_singleton (l : Link π) (byte : UInt8) (s : σ) :
    receive deliver [byte] (l, s) = handle deliver (l.decoder.push byte).1 (l.tookIn byte, s) := by
  cases hresult : (l.decoder.push byte).1 with
  | ok event => exact receive_cons_of_ok hresult [] s
  | error e => exact receive_cons_of_error hresult [] s

omit [Port π] in
/-- **A byte that completes a frame** leaves the link idle. -/
theorem Balanced.tookIn_idle_of_frame {l : Link π} (hl : l.Balanced) {byte : UInt8} {frame : Frame}
    (hresult : (l.decoder.push byte).1 = .ok (.frame frame)) : (l.tookIn byte).Idle := by
  have hbalanced : (l.tookIn byte).Balanced := hl.receiveByte byte
  exact hbalanced.idle ((l.tookIn_decoder byte).trans (Decoder.push_idle_of_frame hresult))

omit [Port π] in
/-- So does a byte that leads to a frame error. -/
theorem Balanced.tookIn_idle_of_error {l : Link π} (hl : l.Balanced) {byte : UInt8} {e : FrameError}
    (hresult : (l.decoder.push byte).1 = .error e) : (l.tookIn byte).Idle := by
  have hbalanced : (l.tookIn byte).Balanced := hl.receiveByte byte
  exact hbalanced.idle ((l.tookIn_decoder byte).trans (Decoder.push_idle_of_error hresult))

/-! ## §3. Chunks -/

/-- Frames are delivered over an idle link, and leave it so. -/
def KeepsIdle (deliver : Frame → Link π × σ → Link π × σ) : Prop :=
  ∀ frame (l : Link π) s, l.Idle → (deliver frame (l, s)).1.Idle

/-- Whatever an answer leads to, the link stays in balance and the decoder
    goes on from where the byte has left it. -/
theorem Balanced.handle {l : Link π} (hdeliver : KeepsIdle deliver) (hl : l.Balanced)
    (byte : UInt8) (s : σ) :
    (handle deliver (l.decoder.push byte).1 (l.tookIn byte, s)).1.Balanced
      ∧ (Link.handle deliver (l.decoder.push byte).1 (l.tookIn byte, s)).1.decoder
        = (l.decoder.push byte).2 := by
  have hbalanced : (l.tookIn byte).Balanced := hl.receiveByte byte
  have hdecoder := l.tookIn_decoder byte
  cases hresult : (l.decoder.push byte).1 with
  | error e =>
    have hidle := Decoder.push_idle_of_error hresult
    have hsent := hbalanced.send_idle .nak
    exact ⟨hsent.balanced, hsent.decoder.trans hidle.symm⟩
  | ok event =>
    cases event with
    | pending => exact ⟨hbalanced, hdecoder⟩
    | outOfFrame noise => exact ⟨hbalanced, hdecoder⟩
    | frame frame =>
      -- the frame is complete, so the line is free when it is delivered
      have hidle := Decoder.push_idle_of_frame hresult
      have hdelivered := hdeliver frame _ s (hbalanced.idle (hdecoder.trans hidle))
      exact ⟨hdelivered.balanced, hdelivered.decoder.trans hidle.symm⟩

/-- **What every byte keeps, every chunk keeps**, together with the answers to
    the bytes that count. -/
theorem receive_induction {P : List (Except FrameError DecodeEvent) → Link π × σ → Prop}
    (hdeliver : KeepsIdle deliver)
    (hstep : ∀ heard (l : Link π) s byte, l.Balanced → P heard (l, s) →
      P (heard ++ [(l.decoder.push byte).1])
        (handle deliver (l.decoder.push byte).1 (l.tookIn byte, s)))
    (bytes : List UInt8) (heard : List (Except FrameError DecodeEvent)) {l : Link π} {s : σ}
    (hl : l.Balanced) (hbase : P heard (l, s)) :
    P (heard ++ (l.decoder.feed (l.decoder.kept bytes)).1) (receive deliver bytes (l, s))
      ∧ (receive deliver bytes (l, s)).1.Balanced
      ∧ (receive deliver bytes (l, s)).1.decoder
        = (l.decoder.feed (l.decoder.kept bytes)).2 := by
  -- the decoder of the link that has handled a byte is where the byte has left it
  induction bytes generalizing heard l s with
  | nil =>
    refine ⟨?_, hl, rfl⟩
    show P (heard ++ []) (l, s)
    rw [List.append_nil]
    exact hbase
  | cons byte rest ih =>
    have hnext := hstep heard l s byte hl hbase
    obtain ⟨hbalanced, hdecoder⟩ := hl.handle hdeliver byte s
    cases hresult : (l.decoder.push byte).1 with
    | error e =>
      -- the rest of the chunk is dropped
      rw [hresult] at hnext hbalanced hdecoder
      rw [receive_cons_of_error hresult, Decoder.kept_cons_of_error hresult]
      simp only [Decoder.feed, hresult]
      exact ⟨hnext, hbalanced, hdecoder⟩
    | ok event =>
      rw [hresult] at hnext hbalanced hdecoder
      rw [receive_cons_of_ok hresult, Decoder.kept_cons_of_ok hresult]
      simp only [Decoder.feed, hresult]
      have hrest := ih _ hbalanced hnext
      rw [hdecoder, List.append_assoc] at hrest
      exact hrest

/-- A chunk leaves the link in balance, and the decoder where the bytes that
    count leave it. -/
theorem Balanced.receive (hdeliver : KeepsIdle deliver) (bytes : List UInt8) {l : Link π}
    (hl : l.Balanced) (s : σ) :
    (receive deliver bytes (l, s)).1.Balanced
      ∧ (Link.receive deliver bytes (l, s)).1.decoder
        = (l.decoder.feed (l.decoder.kept bytes)).2 :=
  (receive_induction (P := fun _ _ => True) hdeliver (fun _ _ _ _ _ _ => trivial) bytes [] hl
    trivial).2

/-- **A chunk may be cut** behind bytes without a frame error. -/
theorem receive_append (hdeliver : KeepsIdle deliver) (before after : List UInt8) {l : Link π}
    (hl : l.Balanced) (s : σ) (hclean : ∀ r ∈ (l.decoder.feed before).1, r.isOk = true) :
    receive deliver (before ++ after) (l, s)
      = receive deliver after (receive deliver before (l, s)) := by
  induction before generalizing l s with
  | nil => rfl
  | cons byte rest ih =>
    obtain ⟨hbalanced, hdecoder⟩ := hl.handle hdeliver byte s
    simp only [Decoder.feed, List.mem_cons, forall_eq_or_imp] at hclean
    obtain ⟨hbyte, hrest⟩ := hclean
    cases hresult : (l.decoder.push byte).1 with
    | error e => rw [hresult] at hbyte; cases hbyte
    | ok event =>
      rw [hresult] at hbalanced hdecoder
      rw [← hdecoder] at hrest
      rw [List.cons_append, receive_cons_of_ok hresult, receive_cons_of_ok hresult]
      exact ih hbalanced _ hrest

/-- What stands behind a frame error in a chunk is dropped. -/
theorem receive_append_of_error (hdeliver : KeepsIdle deliver) (before after : List UInt8)
    {l : Link π} (hl : l.Balanced) (s : σ)
    (herror : ∃ r ∈ (l.decoder.feed before).1, r.isOk = false) :
    receive deliver (before ++ after) (l, s) = receive deliver before (l, s) := by
  induction before generalizing l s with
  | nil =>
    obtain ⟨r, hr, _⟩ := herror
    cases hr
  | cons byte rest ih =>
    obtain ⟨hbalanced, hdecoder⟩ := hl.handle hdeliver byte s
    rw [List.cons_append]
    cases hresult : (l.decoder.push byte).1 with
    | error e => rw [receive_cons_of_error hresult, receive_cons_of_error hresult]
    | ok event =>
      -- the error comes later
      have hrest : ∃ r ∈ ((l.decoder.push byte).2.feed rest).1, r.isOk = false := by
        obtain ⟨r, hr, herror⟩ := herror
        simp only [Decoder.feed, hresult, List.mem_cons] at hr
        rcases hr with rfl | hr
        · cases herror
        · exact ⟨r, hr, herror⟩
      rw [hresult] at hbalanced hdecoder
      rw [← hdecoder] at hrest
      rw [receive_cons_of_ok hresult, receive_cons_of_ok hresult]
      exact ih hbalanced _ hrest

end Link

end ZWaveHost
