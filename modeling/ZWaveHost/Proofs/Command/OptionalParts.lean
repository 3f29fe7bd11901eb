/-
  ZWaveHost.Proofs.Command.OptionalParts — payloads whose last parts may be
  missing.

  An application command and the announcement of a start say in a length byte how
  long one part is, and one more byte may follow it.  The report on a
  transmission is a session id; the status and the rest may be missing.

  Each reading is followed byte by byte through the payloads that are too short
  for its fixed part and through those that are not.

  Main statement: every part is read from its place, and a payload has no value
  only if a byte is missing (`parts_lie_in_place`).
-/
import ZWaveHost.Command
import ZWaveHost.Proofs.Command.Reading

namespace ZWaveHost

/-! ## §1. A part of a declared length -/

/-- So many bytes and one more, if there is one, are read behind others: they lie
    behind those, and are missed only if there are fewer. -/
theorem Buffer.run_counted {α : Type} {before left : List UInt8} {count : Nat}
    {f : List UInt8 → Option UInt8 → α} :
    Decode.run (Buffer.nextBytes count >>= fun part => Buffer.next? >>= fun more =>
        pure (f part more)) (.after before left)
      = if before.length + count ≤ (before ++ left).length then
          (.ok (f (((before ++ left).drop before.length).take count)
              (before ++ left)[before.length + count]?),
            ⟨before ++ left, min (before ++ left).length (before.length + count + 1)⟩)
        else
          (.error (.bufferUnderflow (before ++ left).length), ⟨before ++ left, before.length⟩) := by
  rw [Buffer.run_nextBytes_bind]
  by_cases hcount : count ≤ left.length
  · -- what has been read and what is left are the same bytes as before
    have hfits : before.length + count ≤ (before ++ left).length := by
      rw [List.length_append]
      omega
    have hmore : (before ++ left)[before.length + count]? = left[count]? := by
      rw [List.getElem?_append_right (by omega), Nat.add_sub_cancel_left]
    have hbytes : before ++ left.take count ++ (left.drop count).take 1
        ++ (left.drop count).drop 1 = before ++ left := by
      rw [List.append_assoc, List.take_append_drop, List.append_assoc, List.take_append_drop]
    have hcursor : (before ++ left.take count ++ (left.drop count).take 1).length
        = min (before ++ left).length (before.length + count + 1) := by
      simp only [List.length_append, List.length_take, List.length_drop]
      omega
    rw [if_pos hcount, if_pos hfits, Buffer.run_next?_bind, List.head?_drop, Buffer.after, hbytes,
      hcursor, hmore, List.drop_left]
    rfl
  · have hshort : ¬ before.length + count ≤ (before ++ left).length := by
      rw [List.length_append]
      omega
    rw [if_neg hcount, if_neg hshort, List.length_append]
    rfl

theorem ApplicationCommand.run_decode (p : List UInt8) :
    ApplicationCommand.decode.run (.ofBytes p)
      = if 3 ≤ p.length ∧ 3 + (p.getD 2 0).toNat ≤ p.length then
          (.ok { rxStatus := RxStatus.ofByte (p.getD 0 0), sourceNodeId := p.getD 1 0
                 payload := (p.drop 3).take (p.getD 2 0).toNat
                 rssi := p[3 + (p.getD 2 0).toNat]?.map RssiMeasurement.ofByte },
            ⟨p, min p.length (3 + (p.getD 2 0).toNat + 1)⟩)
        else (.error (.bufferUnderflow p.length), ⟨p, min p.length 3⟩) := by
  -- a payload without a length byte ends within the fixed part
  match p with
  | [] => rfl
  | [_] => rfl
  | [_, _] => rfl
  | status :: node :: length :: rest =>
    have hfixed : 3 ≤ (status :: node :: length :: rest).length := Nat.le_add_left 3 _
    simp only [and_iff_right hfixed, Nat.min_eq_right hfixed]
    rw [Buffer.ofBytes_eq_after]
    unfold ApplicationCommand.decode
    simp only [Buffer.run_next_bind_cons, Buffer.run_counted]
    rfl

/-- The lowest bit of a byte that may be missing. -/
theorem decide_lowest_bit (more : Option UInt8) :
    decide ((more.getD 0) &&& 0x01 ≠ 0) = more.any (·.toNat.testBit 0) := by
  cases more with
  | none => rfl
  | some flags =>
    have hbit : flags &&& 0x01 ≠ 0 ↔ flags.toNat % 2 = 1 := by
      rw [ne_eq, ← UInt8.toNat_inj, UInt8.toNat_and]
      show ¬ flags.toNat &&& 1 = 0 ↔ flags.toNat % 2 = 1
      rw [Nat.and_one_is_mod]
      omega
    show decide (flags &&& 0x01 ≠ 0) = flags.toNat.testBit 0
    rw [Nat.testBit_zero]
    exact decide_eq_decide.mpr hbit

theorem ApiStarted.run_decode (p : List UInt8) :
    ApiStarted.decode.run (.ofBytes p)
      = if 6 ≤ p.length ∧ 6 + (p.getD 5 0).toNat ≤ p.length then
          (.ok { wakeupReason := WakeupReason.ofByte (p.getD 0 0)
                 watchdogStarted := p.getD 1 0 = 0x01
                 deviceOptionMask := p.getD 2 0
                 genericDeviceType := p.getD 3 0
                 specificDeviceType := p.getD 4 0
                 commandClasses := (p.drop 6).take (p.getD 5 0).toNat
                 supportsLongRange := p[6 + (p.getD 5 0).toNat]?.any (·.toNat.testBit 0) },
            ⟨p, min p.length (6 + (p.getD 5 0).toNat + 1)⟩)
        else (.error (.bufferUnderflow p.length), ⟨p, min p.length 6⟩) := by
  match p with
  | [] => rfl
  | [_] => rfl
  | [_, _] => rfl
  | [_, _, _] => rfl
  | [_, _, _, _] => rfl
  | [_, _, _, _, _] => rfl
  | reason :: watchdog :: options :: generic :: specific :: length :: rest =>
    have hfixed : 6 ≤ (reason :: watchdog :: options :: generic :: specific :: length
        :: rest).length := Nat.le_add_left 6 _
    simp only [and_iff_right hfixed, Nat.min_eq_right hfixed]
    rw [Buffer.ofBytes_eq_after]
    unfold ApiStarted.decode
    simp only [Buffer.run_next_bind_cons, Buffer.run_counted, decide_lowest_bit]
    rfl

/-! ## §2. A status and a rest -/

theorem TxReport.run_decode (p : List UInt8) :
    TxReport.decode.run (.ofBytes p)
      = if 1 ≤ p.length then
          (.ok { sessionId := p.getD 0 0, txStatus := p[1]?.elim .noReport TxStatus.ofByte
                 report := p.drop 2 }, ⟨p, p.length⟩)
        else (.error (.bufferUnderflow p.length), ⟨p, 0⟩) := by
  match p with
  | [] => rfl
  | [_] => rfl
  | session :: status :: report =>
    have hfixed : 1 ≤ (session :: status :: report).length := Nat.le_add_left 1 _
    have hend : Buffer.after (session :: status :: report) []
        = ⟨session :: status :: report, (session :: status :: report).length⟩ := by
      rw [Buffer.after, List.append_nil]
    rw [if_pos hfixed, ← hend, Buffer.ofBytes_eq_after]
    unfold TxReport.decode
    simp only [Buffer.run_next_bind_cons, Buffer.run_next?_bind, Buffer.run_nextRest_bind]
    rfl

/-- A callback is made of the report that it carries. -/
theorem TxReport.run_decode_bind {α : Type} (f : TxReport → α) (p : List UInt8) :
    Decode.run (do return f (← TxReport.decode)) (.ofBytes p)
      = if 1 ≤ p.length then
          (.ok (f { sessionId := p.getD 0 0, txStatus := p[1]?.elim .noReport TxStatus.ofByte
                    report := p.drop 2 }), ⟨p, p.length⟩)
        else (.error (.bufferUnderflow p.length), ⟨p, 0⟩) := by
  rw [Decode.run_bind, TxReport.run_decode]
  by_cases hsession : 1 ≤ p.length
  · simp only [if_pos hsession]
    rfl
  · simp only [if_neg hsession]

/-! ## §3. All payloads -/

/-- **Every part is read from its place.**  An application command is a status, a
    node, a length byte, as many bytes of payload as it declares, and the signal
    strength if one more byte follows; the announcement of a start is the same
    with six bytes in front of the command classes, and long range is supported
    if one more byte follows and its lowest bit is set.  The callback of a
    transmission is a session id, a status if there is one, and all the rest.
    Whatever stands behind these parts is left unread, and the one way to fail is
    that a byte of them is missing. -/
theorem parts_lie_in_place (p : List UInt8) :
    (ApplicationCommand.decode.run (.ofBytes p)
      = if 3 ≤ p.length ∧ 3 + (p.getD 2 0).toNat ≤ p.length then
          (.ok { rxStatus := RxStatus.ofByte (p.getD 0 0), sourceNodeId := p.getD 1 0
                 payload := (p.drop 3).take (p.getD 2 0).toNat
                 rssi := p[3 + (p.getD 2 0).toNat]?.map RssiMeasurement.ofByte },
            ⟨p, min p.length (3 + (p.getD 2 0).toNat + 1)⟩)
        else (.error (.bufferUnderflow p.length), ⟨p, min p.length 3⟩))
    ∧ (ApiStarted.decode.run (.ofBytes p)
      = if 6 ≤ p.length ∧ 6 + (p.getD 5 0).toNat ≤ p.length then
          (.ok { wakeupReason := WakeupReason.ofByte (p.getD 0 0)
                 watchdogStarted := p.getD 1 0 = 0x01
                 deviceOptionMask := p.getD 2 0
                 genericDeviceType := p.getD 3 0
                 specificDeviceType := p.getD 4 0
                 commandClasses := (p.drop 6).take (p.getD 5 0).toNat
                 supportsLongRange := p[6 + (p.getD 5 0).toNat]?.any (·.toNat.testBit 0) },
            ⟨p, min p.length (6 + (p.getD 5 0).toNat + 1)⟩)
        else (.error (.bufferUnderflow p.length), ⟨p, min p.length 6⟩))
    ∧ (SendDataComplete.decode.run (.ofBytes p)
      = if 1 ≤ p.length then
          (.ok { sessionId := p.getD 0 0, txStatus := p[1]?.elim .noReport TxStatus.ofByte
                 report := p.drop 2 }, ⟨p, p.length⟩)
        else (.error (.bufferUnderflow p.length), ⟨p, 0⟩))
    ∧ (SendNopComplete.decode.run (.ofBytes p)
      = if 1 ≤ p.length then
          (.ok { sessionId := p.getD 0 0, txStatus := p[1]?.elim .noReport TxStatus.ofByte
                 report := p.drop 2 }, ⟨p, p.length⟩)
        else (.error (.bufferUnderflow p.length), ⟨p, 0⟩)) := by
  refine ⟨ApplicationCommand.run_decode p, ApiStarted.run_decode p, ?_, ?_⟩
  · exact TxReport.run_decode_bind SendDataComplete.mk p
  · exact TxReport.run_decode_bind SendNopComplete.mk p

end ZWaveHost
