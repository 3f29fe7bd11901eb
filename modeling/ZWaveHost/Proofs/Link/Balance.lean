/-
  ZWaveHost.Proofs.Link.Balance — the line is held exactly while a frame is
  being received.

  The receiver takes the line in one call and gives it back in another, a
  sender may wait for it meanwhile, and one that has waited in vain drops the
  frame it waited for.  All of them keep the line and the decoder in step
  (`Link.Balanced`).

  Main fact: after a sender is done, with or without success, no frame is
  being received and the line is free (`Balanced.send_idle`).
-/
import ZWaveHost.Link

namespace ZWaveHost

/-! ## §1. The decoder between frames -/

theorem Line.eq_free_of_not_held {line : Line} (h : line.isHeld = false) : line = .free := by
  cases line with
  | free => rfl
  | held => cases h

namespace Decoder

theorem eq_idle_of_not_inFrame {d : Decoder} (h : d.inFrame = false) : d = .idle := by
  cases d with
  | idle => rfl
  | started => cases h
  | reading length body => cases h

/-- A byte that completes a frame leaves the decoder idle. -/
theorem push_idle_of_frame {d : Decoder} {byte : UInt8} {frame : Frame}
    (h : (d.push byte).1 = .ok (.frame frame)) : (d.push byte).2 = .idle := by
  cases d with
  | idle =>
    revert h
    unfold push pushIdle
    dsimp only
    split <;> intro h <;> cases h <;> rfl
  | started =>
    revert h
    unfold push
    dsimp only
    split <;> intro h <;> cases h
  | reading length body =>
    revert h
    unfold push
    dsimp only
    split
    · intro h; cases h
    · intro _; rfl

/-- **A frame error leaves the decoder idle.** -/
theorem push_idle_of_error {d : Decoder} {byte : UInt8} {e : FrameError}
    (h : (d.push byte).1 = .error e) : (d.push byte).2 = .idle := by
  cases d with
  | idle => cases h
  | started =>
    revert h
    unfold push
    dsimp only
    split
    · intro _; rfl
    · intro h; cases h
  | reading length body =>
    revert h
    unfold push
    dsimp only
    split
    · intro h; cases h
    · intro _; rfl

end Decoder

namespace Link

variable {π : Type}

/-! ## §2. Links in balance -/

/-- The line is held exactly while a frame is being received. -/
def Balanced (l : Link π) : Prop := l.line.isHeld = l.decoder.inFrame

/-- No frame is being received, and nobody holds the line. -/
structure Idle (l : Link π) : Prop where
  decoder : l.decoder = .idle
  line : l.line = .free

theorem idle_new (port : π) (lockTimeout : Nat) : (new port lockTimeout).Idle := ⟨rfl, rfl⟩

theorem Idle.balanced {l : Link π} (hl : l.Idle) : l.Balanced := by
  unfold Balanced
  rw [hl.decoder, hl.line]
  rfl

/-- Between frames, a link in balance is idle. -/
theorem Balanced.idle {l : Link π} (hl : l.Balanced) (hd : l.decoder = .idle) : l.Idle := by
  unfold Balanced at hl
  rw [hd] at hl
  exact ⟨hd, Line.eq_free_of_not_held hl⟩

/-- Between frames a link in balance is idle, and else its line is held. -/
theorem Balanced.idle_iff {l : Link π} (hl : l.Balanced) : l.Idle ↔ l.decoder.inFrame = false := by
  constructor
  · intro hidle
    rw [hidle.decoder]
    rfl
  · exact fun hframe => hl.idle (Decoder.eq_idle_of_not_inFrame hframe)

theorem Balanced.held {l : Link π} (hl : l.Balanced) (hframe : l.decoder.inFrame = true) :
    l.line = .held := by
  unfold Balanced at hl
  rw [hframe] at hl
  cases hline : l.line with
  | free => rw [hline] at hl; cases hl
  | held => rfl

/-- A port that changes leaves the link in balance. -/
theorem Balanced.withPort {l : Link π} (hl : l.Balanced) (port : π) :
    ({ l with port := port } : Link π).Balanced := hl

theorem Balanced.resynchronize_idle {l : Link π} (hl : l.Balanced) : l.resynchronize.Idle := by
  unfold resynchronize
  by_cases hd : l.decoder.inFrame = true
  · rw [if_pos hd]
    exact ⟨rfl, rfl⟩
  · rw [if_neg hd]
    exact hl.idle (Decoder.eq_idle_of_not_inFrame (Bool.eq_false_iff.mpr hd))

theorem resynchronize_decoder (l : Link π) : l.resynchronize.decoder = .idle := by
  unfold resynchronize
  by_cases hframe : l.decoder.inFrame = true
  · rw [if_pos hframe]
    rfl
  · rw [if_neg hframe]
    exact Decoder.eq_idle_of_not_inFrame (Bool.eq_false_iff.mpr hframe)

theorem resynchronize_received (l : Link π) : l.resynchronize.received = l.received := by
  unfold resynchronize
  split <;> rfl

/-! ## §3. Senders -/

variable [Port π]

/-- A frame that is sent over an idle link goes straight to the port. -/
theorem Idle.send_eq {l : Link π} (hl : l.Idle) (frame : Frame) :
    l.send frame =
      match writeOut frame.toBytes l.port with
      | (.ok (), port) =>
        (.ok (), { l with port := port, line := .free, sent := l.sent.record frame.type })
      | (.error fault, port) =>
        (.error (.transport fault.message), { l with port := port, line := .free }) := by
  unfold send
  rw [hl.line]
  rfl

theorem Idle.send_idle {l : Link π} (hl : l.Idle) (frame : Frame) : (l.send frame).2.Idle := by
  rw [hl.send_eq]
  rcases writeOut frame.toBytes l.port with ⟨result, port⟩
  cases result with
  | ok _ => exact ⟨hl.decoder, rfl⟩
  | error fault => exact ⟨hl.decoder, rfl⟩

/-- **After a sender is done the link is idle**, whether it has sent its frame,
    failed to, or dropped the frame that was being received. -/
theorem Balanced.send_idle {l : Link π} (hl : l.Balanced) (frame : Frame) :
    (l.send frame).2.Idle := by
  cases hline : l.line with
  | free =>
    have hd : l.decoder.inFrame = false := by
      unfold Balanced at hl
      rw [← hl, hline]
      rfl
    exact (hl.idle (Decoder.eq_idle_of_not_inFrame hd)).send_idle frame
  | held =>
    have hwaited : (l.send frame).2 = l.resynchronize := by
      unfold send
      rw [hline]
      rfl
    rw [hwaited]
    exact hl.resynchronize_idle

/-- **A frame is sent** exactly if the line is free and its bytes can be
    written out. -/
theorem send_eq_ok_iff {l : Link π} {frame : Frame} :
    (l.send frame).1 = .ok () ↔ l.line = .free ∧ (writeOut frame.toBytes l.port).1 = .ok () := by
  unfold send
  cases hline : l.line with
  | free =>
    simp only [Line.acquire?, true_and]
    rcases writeOut frame.toBytes l.port with ⟨result, port⟩
    cases result with
    | ok _ => exact iff_of_true rfl rfl
    | error fault => exact iff_of_false nofun nofun
  | held => exact iff_of_false nofun fun hsent => nomatch hsent.1

/-- A sender that finds the line held gives up. -/
theorem send_of_held {l : Link π} (hline : l.line = .held) (frame : Frame) :
    l.send frame = (.error (.transport ("line busy for " ++ Text.duration l.lockTimeout)),
      l.resynchronize) := by
  unfold send
  rw [hline]
  rfl

/-- Sending counts nothing as received. -/
theorem send_received (l : Link π) (frame : Frame) :
    (l.send frame).2.received = l.received := by
  unfold send
  split
  · exact l.resynchronize_received
  · split <;> rfl

/-- A sender leaves the frame that is being received alone, or drops it. -/
theorem send_decoder (l : Link π) (frame : Frame) :
    (l.send frame).2.decoder = l.decoder ∨ (l.send frame).2.decoder = .idle := by
  unfold send
  split
  · exact .inr l.resynchronize_decoder
  · split
    · exact .inl rfl
    · exact .inl rfl

/-- **A frame is counted as sent** if it has been sent, and nothing else is. -/
theorem send_sent (l : Link π) (frame : Frame) :
    (l.send frame).2.sent
      = if (l.send frame).1.isOk then l.sent.record frame.type else l.sent := by
  unfold send
  split
  · show l.resynchronize.sent = l.sent
    unfold resynchronize
    split <;> rfl
  · split
    · rfl
    · rfl

/-- Over an idle link a frame that is handed over is sent at once. -/
theorem Idle.post_eq {l : Link π} (hl : l.Idle) (sender : Sender) (frame : Frame) :
    l.post sender frame = (l.send frame).2 := by
  unfold post
  rw [hl.line]

theorem Balanced.post {l : Link π} (hl : l.Balanced) (sender : Sender) (frame : Frame) :
    (l.post sender frame).Balanced := by
  unfold Link.post
  split
  · exact (hl.send_idle frame).balanced
  · exact hl

theorem Balanced.afterWait {l : Link π} (hl : l.Balanced) (sender : Sender) :
    (l.afterWait sender).Balanced := by
  have hdismissed : (l.dismiss sender).Balanced := hl
  exact afterWait_rec (P := Balanced) hl fun frame => (hdismissed.send_idle frame).balanced

theorem Idle.afterWait_idle {l : Link π} (hl : l.Idle) (sender : Sender) :
    (l.afterWait sender).Idle := by
  have hdismissed : (l.dismiss sender).Idle := ⟨hl.decoder, hl.line⟩
  exact afterWait_rec (P := Idle) hl hdismissed.send_idle

theorem post_received (l : Link π) (sender : Sender) (frame : Frame) :
    (l.post sender frame).received = l.received := by
  unfold post
  split
  · exact l.send_received frame
  · rfl

theorem afterWait_received (l : Link π) (sender : Sender) :
    (l.afterWait sender).received = l.received :=
  afterWait_rec (P := fun l' => l'.received = l.received) rfl (l.dismiss sender).send_received

theorem Balanced.openPort {l : Link π} (hl : l.Balanced) (timeout : Nat) :
    (l.openPort timeout).2.Balanced := by
  unfold Link.openPort
  rcases Port.openWithin timeout l.port with ⟨result, port⟩
  cases result with
  | error e => exact hl
  | ok opened =>
    cases opened with
    | false => exact hl
    | true =>
      have hsent := ((hl.withPort port).send_idle .nak).balanced
      dsimp only
      revert hsent
      rcases ({ l with port := port } : Link π).send .nak with ⟨result, l⟩
      intro hsent
      cases result with
      | ok _ => exact hsent
      | error e => exact hsent

theorem Balanced.closePort {l : Link π} (hl : l.Balanced) : l.closePort.2.Balanced := by
  unfold Link.closePort
  rcases Port.close l.port with ⟨result, port⟩
  cases result with
  | error e => exact hl
  | ok wasOpen => exact (hl.withPort port).resynchronize_idle.balanced

/-! ## §4. The receiver -/

omit [Port π] in
/-- **A byte keeps the line in step** with the frame that it begins or ends. -/
theorem Balanced.receiveByte {l : Link π} (hl : l.Balanced) (byte : UInt8) :
    (l.receiveByte byte).2.Balanced := by
  have hline : (lineAfter l.line l.decoder (l.decoder.push byte).2).isHeld
      = (l.decoder.push byte).2.inFrame := by
    unfold Balanced at hl
    unfold lineAfter
    cases hbefore : l.decoder.inFrame with
    | true =>
      rw [hbefore] at hl
      cases (l.decoder.push byte).2.inFrame with
      | true => exact hl
      | false => rfl
    | false =>
      rw [hbefore] at hl
      rw [Line.eq_free_of_not_held hl]
      -- nobody holds the line, so the frame that begins gets it
      cases (l.decoder.push byte).2.inFrame with
      | true => rfl
      | false => rfl
  unfold Link.receiveByte
  dsimp only
  split <;> exact hline

end Link

end ZWaveHost
