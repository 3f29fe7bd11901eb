/-
  ZWaveHost.Proofs.Frame.Bytes — frames and the bytes that stand for them.

  The bytes that begin a frame differ from one another, and so do the two
  kind bytes.  A body is read as the frame whose fields it holds
  (`ofBody_eq_ok`), whatever checksum it carries, or refused for its kind
  byte (`ofBody_eq_unknownKind`).  A frame that is built fits its length byte
  and carries the checksum that its other fields call for (`fits_of_build`).
-/
import ZWaveHost.Frame

namespace ZWaveHost

/-! ## §1. Type bytes and kind bytes -/

theorem FrameType.toByte_injective {t u : FrameType} (h : t.toByte = u.toByte) : t = u := by
  -- sixteen pairs, each settled by comparing two literals
  cases t <;> cases u <;> simp_all [FrameType.toByte]

theorem FrameType.ofByte?_toByte (t : FrameType) : FrameType.ofByte? t.toByte = some t := by
  cases t <;> rfl

theorem FrameType.toByte_of_ofByte? {b : UInt8} {t : FrameType}
    (h : FrameType.ofByte? b = some t) : b = t.toByte := by
  unfold FrameType.ofByte? at h
  split at h
  · next hb => rw [hb, ← Option.some.inj h]; rfl
  split at h
  · next hb => rw [hb, ← Option.some.inj h]; rfl
  split at h
  · next hb => rw [hb, ← Option.some.inj h]; rfl
  split at h
  · next hb => rw [hb, ← Option.some.inj h]; rfl
  · cases h

/-- A byte begins no frame exactly if it is none of the type bytes. -/
theorem FrameType.ofByte?_eq_none_iff {b : UInt8} :
    FrameType.ofByte? b = none ↔ ∀ t : FrameType, b ≠ t.toByte := by
  constructor
  · intro h t hb
    rw [hb, FrameType.ofByte?_toByte] at h
    cases h
  · intro h
    cases ht : FrameType.ofByte? b with
    | none => rfl
    | some t => exact absurd (FrameType.toByte_of_ofByte? ht) (h t)

theorem FrameKind.ofByte_toByte (k : FrameKind) : FrameKind.ofByte k.toByte = .ok k := by
  cases k <;> rfl

theorem FrameKind.ofByte_eq_unknown {b : UInt8} (h : ∀ k : FrameKind, b ≠ k.toByte) :
    FrameKind.ofByte b = .error (.unknownKind b) := by
  have h0 : b ≠ 0x00 := h .request
  have h1 : b ≠ 0x01 := h .response
  simp [FrameKind.ofByte, h0, h1]

/-! ## §2. Bodies -/

namespace DataFrame

/-- What follows the length byte of a frame, with the checksum it carries. -/
def body (f : DataFrame) : List UInt8 :=
  f.kind.toByte :: f.commandId :: (f.payload ++ [f.checksum])

/-- The length byte counts what follows it. -/
def Fits (f : DataFrame) : Prop := f.length.toNat = f.payload.length + 3

instance (f : DataFrame) : Decidable f.Fits := inferInstanceAs (Decidable (_ = _))

theorem length_body (f : DataFrame) : f.body.length = f.payload.length + 3 := by
  simp [body]

theorem not_lt_minFrameLength {length : UInt8} :
    ¬ length < minFrameLength ↔ 3 ≤ length.toNat := by
  rw [UInt8.lt_iff_toNat_lt, show minFrameLength.toNat = 3 from rfl]
  omega

/-- **A body is read as the frame whose fields it holds**, right checksum or not. -/
theorem ofBody_eq_ok {f : DataFrame} (h : f.Fits) : DataFrame.ofBody f.length f.body = .ok f := by
  have hlen : f.length.toNat = f.payload.length + 3 := h
  have hshort : ¬ f.length < minFrameLength := not_lt_minFrameLength.mpr (by omega)
  have hwhole : ¬ f.body.length < f.length.toNat := by rw [length_body]; omega
  have hsum : f.body.getD (f.length.toNat - 1) 0 = f.checksum := by
    rw [hlen]
    simp [body]
  have hload : (f.body.take (f.length.toNat - 1)).drop 2 = f.payload := by
    rw [hlen]
    simp [body]
  simp only [DataFrame.ofBody, if_neg hshort, if_neg hwhole, hload, hsum]
  rw [show f.body.getD 0 0 = f.kind.toByte from rfl, FrameKind.ofByte_toByte]
  rfl

/-- **A body with another kind byte is refused for it.** -/
theorem ofBody_eq_unknownKind {length kind : UInt8} {rest : List UInt8}
    (hmin : ¬ length < minFrameLength) (hlen : length.toNat = rest.length + 1)
    (hkind : ∀ k : FrameKind, kind ≠ k.toByte) :
    DataFrame.ofBody length (kind :: rest) = .error (.unknownKind kind) := by
  have hwhole : ¬ (kind :: rest).length < length.toNat := by
    rw [List.length_cons]
    omega
  simp only [DataFrame.ofBody, if_neg hmin, if_neg hwhole]
  rw [show (kind :: rest).getD 0 0 = kind from rfl, FrameKind.ofByte_eq_unknown hkind]
  rfl

/-- A body of the right length that begins with a kind byte holds a frame. -/
theorem exists_of_kind {length : UInt8} {body : List UInt8} {k : FrameKind}
    (hmin : ¬ length < minFrameLength) (hlen : body.length = length.toNat)
    (hkind : body.head? = some k.toByte) :
    ∃ f : DataFrame, f.length = length ∧ f.Fits ∧ f.body = body := by
  have h3 : 3 ≤ length.toNat := not_lt_minFrameLength.mp hmin
  match body, hlen, hkind with
  | first :: id :: more, hlen, hkind =>
    have hmore : more ≠ [] := by
      rintro rfl
      simp at hlen
      omega
    refine ⟨⟨length, k, id, more.dropLast, more.getLast hmore⟩, rfl, ?_, ?_⟩
    · -- the checksum is the last byte, the payload what is left
      show length.toNat = more.dropLast.length + 3
      have hpos := List.length_pos_iff.mpr hmore
      rw [List.length_dropLast, ← hlen, List.length_cons, List.length_cons]
      omega
    · simp only [DataFrame.body, List.dropLast_concat_getLast hmore, Option.some.inj hkind]
  | [first], hlen, _ =>
    simp at hlen
    omega

/-- Bytes past the length are not read. -/
theorem ofBody_append {length : UInt8} {body : List UInt8} (hlen : length.toNat ≤ body.length)
    (rest : List UInt8) :
    DataFrame.ofBody length (body ++ rest) = DataFrame.ofBody length body := by
  unfold DataFrame.ofBody
  by_cases hmin : length < minFrameLength
  · simp only [if_pos hmin]
  · have h3 : 3 ≤ length.toNat := not_lt_minFrameLength.mp hmin
    have hwhole : ¬ body.length < length.toNat := by omega
    have hlonger : ¬ (body ++ rest).length < length.toNat := by
      rw [List.length_append]
      omega
    have hget {i : Nat} (hi : i < length.toNat) : (body ++ rest).getD i 0 = body.getD i 0 := by
      simp only [List.getD_eq_getElem?_getD]
      rw [List.getElem?_append_left (by omega)]
    have hload : (body ++ rest).take (length.toNat - 1) = body.take (length.toNat - 1) :=
      List.take_append_of_le_length (by omega)
    simp only [if_neg hmin, if_neg hwhole, if_neg hlonger, hload]
    rw [hget (by omega : 0 < length.toNat), hget (by omega : 1 < length.toNat),
      hget (by omega : length.toNat - 1 < length.toNat)]

/-- **What a body is read as**: the frame of its length whose body it begins with. -/
theorem ofBody_eq_ok_iff {length : UInt8} {body : List UInt8} {f : DataFrame} :
    DataFrame.ofBody length body = .ok f ↔ f.length = length ∧ f.Fits ∧ f.body <+: body := by
  constructor
  · intro h
    have hmin : ¬ length < minFrameLength := by
      intro hmin
      simp [DataFrame.ofBody, hmin] at h
    have hwhole : ¬ body.length < length.toNat := by
      intro hshort
      simp [DataFrame.ofBody, hmin, hshort] at h
    -- only the bytes that the length counts matter
    have hsplit := List.take_append_drop length.toNat body
    have hlen : (body.take length.toNat).length = length.toNat := by
      rw [List.length_take]
      omega
    rw [← hsplit, ofBody_append (Nat.le_of_eq hlen.symm)] at h
    cases hfirst : body.take length.toNat with
    | nil =>
      rw [hfirst] at hlen
      rw [not_lt_minFrameLength, ← hlen] at hmin
      simp at hmin
    | cons first more =>
      rw [hfirst] at h hlen
      by_cases hkind : ∃ kind : FrameKind, first = kind.toByte
      · obtain ⟨kind, rfl⟩ := hkind
        obtain ⟨g, rfl, hfits, hbody⟩ := exists_of_kind (k := kind) hmin hlen rfl
        rw [← hbody, ofBody_eq_ok hfits] at h
        obtain rfl := Except.ok.inj h
        refine ⟨rfl, hfits, ?_⟩
        rw [hbody, ← hfirst]
        exact List.take_prefix _ _
      · rw [ofBody_eq_unknownKind hmin hlen.symm (not_exists.mp hkind)] at h
        cases h
  · rintro ⟨rfl, hfits, rest, rfl⟩
    have hlen : f.length.toNat ≤ f.body.length := by
      rw [length_body]
      exact Nat.le_of_eq hfits
    rw [ofBody_append hlen, ofBody_eq_ok hfits]

/-- **What a byte string is read as**: the frame that stands at its front. -/
theorem ofBytes_eq_ok_iff {bytes : List UInt8} {f : DataFrame} :
    DataFrame.ofBytes bytes = .ok f
      ↔ f.Fits ∧ FrameType.sof.toByte :: f.length :: f.body <+: bytes := by
  match bytes with
  | [] => simp [DataFrame.ofBytes]
  | [sof] => simp [DataFrame.ofBytes]
  | sof :: length :: body =>
    rw [List.cons_prefix_cons, List.cons_prefix_cons]
    by_cases hsof : sof = FrameType.sof.toByte
    · rw [hsof, DataFrame.ofBytes, if_pos rfl, ofBody_eq_ok_iff]
      constructor
      · rintro ⟨hlength, hfits, hbody⟩
        exact ⟨hfits, rfl, hlength, hbody⟩
      · rintro ⟨hfits, -, hlength, hbody⟩
        exact ⟨hlength, hfits, hbody⟩
    · rw [DataFrame.ofBytes, if_neg hsof]
      constructor
      · intro h
        cases h
      · rintro ⟨-, h, -⟩
        exact absurd h.symm hsof

/-- A frame verifies exactly if it carries the checksum that its other fields call for. -/
theorem verify_eq_ok_iff {f : DataFrame} : f.verify = .ok () ↔ f.checksum = f.computedChecksum := by
  unfold DataFrame.verify DataFrame.isValid
  by_cases h : f.checksum = f.computedChecksum
  · simp [h]
  · simp [h]

/-- A frame that carries the right checksum is sent as it stands. -/
theorem toBytes_eq_body {f : DataFrame} (h : f.checksum = f.computedChecksum) :
    f.toBytes = FrameType.sof.toByte :: f.length :: f.body := by
  simp only [DataFrame.toBytes, DataFrame.body, h, List.cons_append]

/-! ## §3. Frames that are built -/

/-- **A frame that is built holds what it was built from**, fits its length
    byte and carries the right checksum. -/
theorem fits_of_build {kind : FrameKind} {commandId : UInt8} {payload : List UInt8}
    {f : DataFrame} (h : DataFrame.build kind commandId payload = .ok f) :
    f.Fits ∧ f.checksum = f.computedChecksum ∧ f.kind = kind ∧ f.commandId = commandId
      ∧ f.payload = payload := by
  unfold DataFrame.build at h
  split at h
  · cases h
  · next hsize =>
    have hmax : payload.length ≤ 61 := Nat.not_lt.mp hsize
    rw [← Except.ok.inj h]
    refine ⟨?_, rfl, rfl, rfl, rfl⟩
    show (UInt8.ofNat payload.length + minFrameLength).toNat = payload.length + 3
    rw [UInt8.toNat_add, UInt8.toNat_ofNat', show minFrameLength.toNat = 3 from rfl]
    omega

end DataFrame

end ZWaveHost
