/-
  ZWaveHost.Proofs.Frame.RoundTrip — frames and their bytes.

  A frame that fits its length byte and carries the right checksum is read
  back from its bytes, whatever stands behind them; and a byte string in
  which such a frame is found begins with the bytes of that frame.  The
  length byte decides where the frame ends, so this holds for every length
  byte, also for those of frames that are too long to be built.

  Main statement: `bytes_round_trip`.
-/
import ZWaveHost.Buffer
import ZWaveHost.Proofs.Frame.Bytes

namespace ZWaveHost

namespace DataFrame

/-! ## §1. Frames that are built -/

/-- A frame is built of every payload that is short enough, and of no other. -/
theorem exists_build_iff {kind : FrameKind} {commandId : UInt8} {payload : List UInt8} :
    (∃ f, DataFrame.build kind commandId payload = .ok f) ↔ payload.length ≤ 61 := by
  unfold DataFrame.build
  by_cases hsize : payload.length > maxPayloadLength
  · rw [if_pos hsize]
    constructor
    · rintro ⟨f, hf⟩
      cases hf
    · intro hfits
      exact absurd hsize (Nat.not_lt.mpr hfits)
  · rw [if_neg hsize]
    constructor
    · intro _
      exact Nat.not_lt.mp hsize
    · intro _
      exact ⟨_, rfl⟩

theorem length_toBytes (f : DataFrame) : f.toBytes.length = f.encodedSize := by
  simp [DataFrame.toBytes, DataFrame.encodedSize]

/-- As many bytes as the length byte says, SOF and the length byte itself. -/
theorem Fits.length_toBytes {f : DataFrame} (h : f.Fits) :
    f.toBytes.length = f.length.toNat + 2 := by
  have hlen : f.length.toNat = f.payload.length + 3 := h
  rw [DataFrame.length_toBytes, DataFrame.encodedSize]
  omega

/-! ## §2. Frames that are good -/

/-- **A good frame is read back from its bytes**, and what stands behind them
    is ignored. -/
theorem ofBytes_toBytes_append {f : DataFrame} (hfits : f.Fits) (hgood : f.verify = .ok ())
    (rest : List UInt8) : DataFrame.ofBytes (f.toBytes ++ rest) = .ok f := by
  rw [ofBytes_eq_ok_iff, toBytes_eq_body (verify_eq_ok_iff.mp hgood)]
  exact ⟨hfits, List.prefix_append _ _⟩

/-- **A good frame is found** exactly where its bytes stand in front. -/
theorem ofBytes_good_iff {bytes : List UInt8} {f : DataFrame} :
    DataFrame.ofBytes bytes = .ok f ∧ f.verify = .ok ()
      ↔ f.Fits ∧ f.verify = .ok () ∧ f.toBytes = bytes.take (f.length.toNat + 2) := by
  constructor
  · rintro ⟨hread, hgood⟩
    obtain ⟨hfits, hfront⟩ := ofBytes_eq_ok_iff.mp hread
    refine ⟨hfits, hgood, ?_⟩
    rw [← hfits.length_toBytes]
    rw [← toBytes_eq_body (verify_eq_ok_iff.mp hgood)] at hfront
    exact List.prefix_iff_eq_take.mp hfront
  · rintro ⟨hfits, hgood, hfront⟩
    refine ⟨?_, hgood⟩
    rw [← List.take_append_drop (f.length.toNat + 2) bytes, ← hfront]
    exact ofBytes_toBytes_append hfits hgood _

/-- Every payload that a length byte can count is that of a good frame. -/
theorem exists_good (kind : FrameKind) (commandId : UInt8) {payload : List UInt8}
    (hsize : payload.length ≤ 252) :
    ∃ f : DataFrame, f.Fits ∧ f.verify = .ok () ∧ f.kind = kind ∧ f.commandId = commandId
      ∧ f.payload = payload := by
  let length := UInt8.ofNat (payload.length + 3)
  refine ⟨⟨length, kind, commandId, payload, ZWaveHost.checksum length kind commandId payload⟩,
    ?_, verify_eq_ok_iff.mpr rfl, rfl, rfl, rfl⟩
  show (UInt8.ofNat (payload.length + 3)).toNat = payload.length + 3
  rw [UInt8.toNat_ofNat']
  omega

/-! ## §3. The round trip -/

/-- **Frames and their bytes determine each other.**

    (1) A frame is built exactly of a payload of at most 61 bytes, and of all
        of them, however many have been read.
    (2) It holds what it was built from, with none of the payload read, is read
        back from its bytes, verifies, and takes as many bytes as it says.
    (3) A frame is read from a byte string and verifies exactly if it fits its
        length byte, verifies, and its bytes are the first `length + 2` of the
        string; so what stands behind these does not matter.
    (4) Such frames are there for every length byte from 3 to 255, with any
        kind, command id and payload: also for those that are never built. -/
theorem bytes_round_trip :
    (∀ kind commandId (payload : Buffer),
        (∃ f, DataFrame.build kind commandId payload.bytes = .ok f) ↔ payload.length ≤ 61)
      ∧ (∀ kind commandId (payload : Buffer) f,
        DataFrame.build kind commandId payload.bytes = .ok f →
        f.kind = kind ∧ f.commandId = commandId
          ∧ Buffer.ofBytes f.payload = { payload with cursor := 0 }
          ∧ DataFrame.ofBytes f.toBytes = .ok f ∧ f.verify = .ok ()
          ∧ f.toBytes.length = f.encodedSize)
      ∧ (∀ bytes f, DataFrame.ofBytes bytes = .ok f ∧ f.verify = .ok ()
        ↔ f.Fits ∧ f.verify = .ok () ∧ f.toBytes = bytes.take (f.length.toNat + 2))
      ∧ ∀ kind commandId payload, payload.length ≤ 252 →
        ∃ f, f.kind = kind ∧ f.commandId = commandId ∧ f.payload = payload
          ∧ f.length.toNat = payload.length + 3 ∧ f.verify = .ok ()
          ∧ ∀ rest, DataFrame.ofBytes (f.toBytes ++ rest) = .ok f := by
  refine ⟨fun _ _ _ => exists_build_iff, ?_, fun _ _ => ofBytes_good_iff, ?_⟩
  · intro kind commandId payload f hbuild
    obtain ⟨hfits, hsum, hkind, hid, hpayload⟩ := fits_of_build hbuild
    have hgood : f.verify = .ok () := verify_eq_ok_iff.mpr hsum
    have hread := ofBytes_toBytes_append hfits hgood []
    rw [List.append_nil] at hread
    have hunread : Buffer.ofBytes f.payload = { payload with cursor := 0 } := by
      rw [hpayload]
      rfl
    exact ⟨hkind, hid, hunread, hread, hgood, length_toBytes f⟩
  · intro kind commandId payload hsize
    obtain ⟨f, hfits, hgood, hkind, hid, hpayload⟩ := exists_good kind commandId hsize
    have hlen : f.length.toNat = payload.length + 3 := by
      rw [← hpayload]
      exact hfits
    exact ⟨f, hkind, hid, hpayload, hlen, hgood, ofBytes_toBytes_append hfits hgood⟩

end DataFrame

end ZWaveHost
