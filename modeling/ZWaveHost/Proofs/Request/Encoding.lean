/-
  ZWaveHost.Proofs.Request.Encoding — requests and the frames that carry them.

  A request is a command id and a payload.  All payloads but one are of three bytes
  at most; data to send stand between their length, in one byte, and two bytes
  more.  The length byte is cut off at eight bits, and that it is true all the same
  follows from the size of a frame alone: what is too long for its length byte is
  too long for a frame.

  A request is read back from its frame (`ofFrame?`) by the command id, one pattern
  for each, so requests with the same frame are the same.  What the frame does not
  tell is whether the sender of an empty frame asked for an acknowledgement: the
  frame always does (`asSent`).

  Main results:
    * `toFrame_eq_error_iff` — only data to send can be too long.
    * `ofFrame?_of_toFrame` — a request is read back as it was sent.
    * `requests_told_by_frames` — requests and the bytes of their frames.
-/
import ZWaveHost.Request
import ZWaveHost.Proofs.Frame.RoundTrip

namespace ZWaveHost

namespace Request

variable {r s : Request} {f g : DataFrame}

/-! ## §1. The frame of a request -/

theorem commandId_of_toFrame (h : r.toFrame = .ok f) : f.commandId = r.commandId :=
  (DataFrame.fits_of_build h).2.2.2.1

theorem payload_of_toFrame (h : r.toFrame = .ok f) : f.payload = r.payload :=
  (DataFrame.fits_of_build h).2.2.2.2

/-- Frames of requests are read back from their bytes, so the bytes tell them apart. -/
theorem eq_of_toBytes_eq (hf : r.toFrame = .ok f) (hg : s.toFrame = .ok g)
    (hbytes : f.toBytes = g.toBytes) : f = g := by
  have hread {r : Request} {f : DataFrame} (h : r.toFrame = .ok f) :
      DataFrame.ofBytes f.toBytes = .ok f := by
    obtain ⟨hfits, hsum, -⟩ := DataFrame.fits_of_build h
    rw [← List.append_nil f.toBytes]
    exact DataFrame.ofBytes_toBytes_append hfits (DataFrame.verify_eq_ok_iff.mpr hsum) []
  have hread_f := hread hf
  rw [hbytes, hread hg] at hread_f
  exact (Except.ok.inj hread_f).symm

theorem toFrame_of_tooLarge (hsize : maxPayloadLength < r.payload.length) :
    r.toFrame = .error (.payloadTooLarge r.payload.length maxPayloadLength) :=
  if_pos hsize

theorem exists_toFrame (hsize : r.payload.length ≤ maxPayloadLength) :
    ∃ frame, r.toFrame = .ok frame ∧ frame.commandId = r.commandId := by
  have hframe : ∃ frame, r.toFrame = .ok frame :=
    ⟨_, if_neg (Nat.not_lt.mpr hsize)⟩
  obtain ⟨frame, hframe⟩ := hframe
  exact ⟨frame, hframe, commandId_of_toFrame hframe⟩

/-- A frame is missing exactly if the payload is too large. -/
theorem toFrame_eq_error_iff_size {fault : FrameError} :
    r.toFrame = .error fault
      ↔ maxPayloadLength < r.payload.length
        ∧ fault = .payloadTooLarge r.payload.length maxPayloadLength := by
  by_cases hsize : maxPayloadLength < r.payload.length
  · rw [toFrame_of_tooLarge hsize, Except.error.injEq, eq_comm]
    exact (and_iff_right hsize).symm
  · obtain ⟨frame, hframe, -⟩ := exists_toFrame (Nat.not_lt.mp hsize)
    rw [hframe]
    exact ⟨nofun, fun h => absurd h.1 hsize⟩

/-! ## §2. Requests that are known -/

/-- Whether a request's meaning is known, and not only its bytes. -/
def isKnown : Request → Bool
  | .raw _ _ => false
  | _ => true

theorem length_payload_sendData (nodeId : UInt8) (data : List UInt8) (options : TxOptions)
    (sessionId : UInt8) :
    (sendData nodeId data options sessionId).payload.length = data.length + 4 := by
  simp [payload]

/-- A payload is short unless there are data in it. -/
theorem length_payload_le (hknown : r.isKnown = true) :
    r.payload.length ≤ 3
      ∨ ∃ nodeId data options sessionId, r = sendData nodeId data options sessionId := by
  cases r with
  | sendData nodeId data options sessionId => exact .inr ⟨_, _, _, _, rfl⟩
  | raw => cases hknown
  | _ => exact .inl (by simp [payload])

/-- **Only data to send can be too long**: more than 57 bytes of them. -/
theorem toFrame_eq_error_iff (hknown : r.isKnown = true) {fault : FrameError} :
    r.toFrame = .error fault
      ↔ ∃ nodeId data options sessionId, r = sendData nodeId data options sessionId
        ∧ 57 < data.length ∧ fault = .payloadTooLarge (data.length + 4) 61 := by
  rw [toFrame_eq_error_iff_size]
  rcases length_payload_le hknown with hshort | ⟨nodeId, data, options, sessionId, rfl⟩
  · constructor
    · rintro ⟨hsize, -⟩
      have : 61 < r.payload.length := hsize
      omega
    · rintro ⟨nodeId, data, options, sessionId, rfl, hlong, -⟩
      rw [length_payload_sendData] at hshort
      omega
  · rw [length_payload_sendData]
    show 61 < data.length + 4 ∧ fault = .payloadTooLarge (data.length + 4) 61 ↔ _
    constructor
    · rintro ⟨hsize, rfl⟩
      exact ⟨nodeId, data, options, sessionId, rfl, by omega, rfl⟩
    · rintro ⟨_, _, _, _, hsame, hlong, hfault⟩
      cases hsame
      exact ⟨by omega, hfault⟩

/-- **The length byte in a frame is true**: it would be cut off only beyond what a
    frame holds. -/
theorem toNat_length_of_toFrame {nodeId : UInt8} {data : List UInt8} {options : TxOptions}
    {sessionId : UInt8} (h : (sendData nodeId data options sessionId).toFrame = .ok f) :
    (UInt8.ofNat data.length).toNat = data.length := by
  have hfits : ¬ 57 < data.length := by
    intro hlong
    have hfault := (toFrame_eq_error_iff (r := sendData nodeId data options sessionId) rfl).mpr
      ⟨nodeId, data, options, sessionId, rfl, hlong, rfl⟩
    rw [h] at hfault
    cases hfault
  rw [UInt8.toNat_ofNat']
  omega

/-! ## §3. Reading a request back -/

/-- Reads back data to send: the data end where their length says, and two bytes are
    left. -/
def ofSendData? (nodeId length : UInt8) (rest : List UInt8) : Option Request :=
  match rest.drop length.toNat with
  | [options, sessionId] => some (.sendData nodeId (rest.take length.toNat) ⟨options⟩ sessionId)
  | _ => none

/-- The request that a frame carries. -/
def ofFrame? (f : DataFrame) : Option Request :=
  match f.commandId.toNat, f.payload with
  | 0x02, [] => some .getInitData
  | 0x05, [] => some .getControllerCapabilities
  | 0x06, [rxAckTimeout, rxByteTimeout] => some (.setTimeouts rxAckTimeout rxByteTimeout)
  | 0x07, [] => some .getCapabilities
  | 0x08, [] => some .softReset
  | 0x13, nodeId :: length :: rest => ofSendData? nodeId length rest
  | 0x15, [] => some .getLibraryVersion
  | 0x16, [] => some .sendDataAbort
  | 0x20, [] => some .getNetworkIds
  | 0x3B, [] => some .getBackgroundRssi
  | 0x41, [nodeId] => some (.getNodeInformationProtocolData nodeId)
  | 0x42, [sessionId] => some (.setDefault sessionId)
  | 0x56, [] => some .getSucNodeId
  | 0x60, [nodeId] => some (.requestNodeInformation nodeId)
  | 0xD2, [] => some .startWatchdog
  | 0xD3, [] => some .stopWatchdog
  | 0xE9, [nodeId, options, sessionId] => some (.sendNop nodeId ⟨options⟩ sessionId)
  | _, _ => none

/-- The request as its frame tells it: an empty frame asks for an acknowledgement. -/
def asSent : Request → Request
  | .sendNop nodeId options sessionId => .sendNop nodeId (TxOptions.ack.union options) sessionId
  | r => r

theorem union_ack_union (options : TxOptions) :
    TxOptions.ack.union (TxOptions.ack.union options) = TxOptions.ack.union options := by
  simp only [TxOptions.union, ← UInt8.or_assoc, UInt8.or_self]

/-- What a request asks for is asked for in its frame already. -/
theorem toFrame_asSent (r : Request) : r.asSent.toFrame = r.toFrame := by
  cases r with
  | sendNop nodeId options sessionId =>
    simp only [toFrame, asSent, commandId, payload, union_ack_union]
  | _ => rfl

theorem ofSendData?_append {nodeId length options sessionId : UInt8} {data : List UInt8}
    (hlength : length.toNat = data.length) :
    ofSendData? nodeId length (data ++ [options, sessionId])
      = some (.sendData nodeId data ⟨options⟩ sessionId) := by
  simp [ofSendData?, hlength]

/-- **A request is read back** from its frame as it was sent. -/
theorem ofFrame?_of_toFrame (hknown : r.isKnown = true) (h : r.toFrame = .ok f) :
    ofFrame? f = some r.asSent := by
  rw [ofFrame?, commandId_of_toFrame h, payload_of_toFrame h]
  cases r with
  | sendData nodeId data options sessionId =>
    exact ofSendData?_append (toNat_length_of_toFrame h)
  | raw => cases hknown
  | _ => rfl

end Request

open Request in
/-- **Requests and the bytes of their frames.**

    (1) Two requests have the same bytes exactly if they are the same, up to the
        acknowledgement that an empty frame always asks for.
    (2) A request has no frame exactly if it is one to send more than 57 bytes of
        data; the error then tells the size.
    (3) Every request is read back from its frame as it was sent.
    (4) In particular one to send data is: its length byte is the number of the
        data, which stand behind it, with the options and the session id behind
        them. -/
theorem requests_told_by_frames :
    (∀ (r s : Request) (f g : DataFrame), r.isKnown = true → s.isKnown = true →
      r.toFrame = .ok f → s.toFrame = .ok g → (f.toBytes = g.toBytes ↔ r.asSent = s.asSent))
    ∧ (∀ (r : Request) (fault : FrameError), r.isKnown = true →
      (r.toFrame = .error fault
        ↔ ∃ nodeId data options sessionId, r = .sendData nodeId data options sessionId
          ∧ 57 < data.length ∧ fault = .payloadTooLarge (data.length + 4) 61))
    ∧ (∀ (r : Request) (f : DataFrame), r.isKnown = true → r.toFrame = .ok f →
      ofFrame? f = some r.asSent)
    ∧ ∀ nodeId data options sessionId f,
      (Request.sendData nodeId data options sessionId).toFrame = .ok f →
        ∃ length : UInt8, length.toNat = data.length
          ∧ f.payload = nodeId :: length :: (data ++ [options.bits, sessionId])
          ∧ ofFrame? f = some (.sendData nodeId data options sessionId) := by
  refine ⟨?_, fun _ _ hknown => toFrame_eq_error_iff hknown,
    fun _ _ hknown hframe => ofFrame?_of_toFrame hknown hframe, ?_⟩
  · intro r s f g hr hs hf hg
    constructor
    · intro hbytes
      obtain rfl : f = g := eq_of_toBytes_eq hf hg hbytes
      have hread := ofFrame?_of_toFrame hr hf
      rw [ofFrame?_of_toFrame hs hg] at hread
      exact (Option.some.inj hread).symm
    · intro hsame
      rw [← toFrame_asSent, hsame, toFrame_asSent, hg] at hf
      rw [Except.ok.inj hf]
  · intro nodeId data options sessionId f hf
    exact ⟨UInt8.ofNat data.length, toNat_length_of_toFrame hf, payload_of_toFrame hf,
      ofFrame?_of_toFrame rfl hf⟩

open Request in
/-- Two empty frames that differ in the acknowledgement asked for, and data of three
    bytes. -/
theorem requests_told_by_frames_of_three :
    (∃ f g, (Request.sendNop 5 .empty 1).toFrame = .ok f
      ∧ (Request.sendNop 5 .ack 1).toFrame = .ok g ∧ f.toBytes = g.toBytes
      ∧ ofFrame? f = some (.sendNop 5 .ack 1))
    ∧ (∀ fault, (Request.sendNop 5 .empty 1).toFrame ≠ .error fault)
    ∧ ∃ f, (Request.sendData 5 [0x20, 0x01, 0xFF] .explore 7).toFrame = .ok f
      ∧ ∃ length : UInt8, length.toNat = 3
        ∧ f.payload = 5 :: length :: ([0x20, 0x01, 0xFF] ++ [0x20, 7])
        ∧ ofFrame? f = some (.sendData 5 [0x20, 0x01, 0xFF] .explore 7) := by
  obtain ⟨hbytes, hfault, hread, hdata⟩ := requests_told_by_frames
  obtain ⟨f, hf, -⟩ := exists_toFrame (r := .sendNop 5 .empty 1) (by decide)
  obtain ⟨g, hg, -⟩ := exists_toFrame (r := .sendNop 5 .ack 1) (by decide)
  obtain ⟨d, hd, -⟩ := exists_toFrame (r := .sendData 5 [0x20, 0x01, 0xFF] .explore 7) (by decide)
  refine ⟨⟨f, g, hf, hg, (hbytes _ _ f g rfl rfl hf hg).mpr rfl, hread _ f rfl hf⟩, ?_,
    d, hd, hdata _ _ _ _ d hd⟩
  intro fault hno
  obtain ⟨_, _, _, _, hsame, -⟩ := (hfault _ fault rfl).mp hno
  cases hsame

end ZWaveHost
