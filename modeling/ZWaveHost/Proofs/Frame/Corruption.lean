/-
  ZWaveHost.Proofs.Frame.Corruption — which corrupted frames pass.

  The checksum is an exclusive or, so it sees of a corruption only the
  exclusive or of what has been changed (`xorAll_differences`).  A frame is
  accepted exactly if its kind byte means something and the exclusive or of
  all that follows the length byte is what the length calls for
  (`accepted_iff`).  The length decides where the frame ends, so the front of
  the frame is taken to be as it was sent.

  Main statement: a corrupted frame is accepted exactly if the changes cancel
  out and the kind byte still means something; one changed byte never passes
  (`corruption_accepted_iff`).
-/
import ZWaveHost.Proofs.Frame.Bytes

namespace ZWaveHost

/-! ## §1. Exclusive or of many bytes -/

/-- The exclusive or of some bytes. -/
def xorAll (bytes : List UInt8) : UInt8 := bytes.foldl (· ^^^ ·) 0

/-- What has been changed between two byte strings, byte by byte. -/
def differences (a b : List UInt8) : List UInt8 := List.zipWith (· ^^^ ·) a b

/-- Two byte strings differ at one place and at no other. -/
def DifferOnce (a b : List UInt8) : Prop := ∃ i : Nat, a[i]? ≠ b[i]? ∧ ∀ j, j ≠ i → a[j]? = b[j]?

theorem foldl_xor (seed : UInt8) (bytes : List UInt8) :
    bytes.foldl (· ^^^ ·) seed = seed ^^^ xorAll bytes := by
  unfold xorAll
  induction bytes generalizing seed with
  | nil => simp
  | cons byte rest ih =>
    simp only [List.foldl_cons]
    rw [ih (seed ^^^ byte), ih (0 ^^^ byte), UInt8.zero_xor, UInt8.xor_assoc]

theorem xorAll_cons (byte : UInt8) (rest : List UInt8) :
    xorAll (byte :: rest) = byte ^^^ xorAll rest := by
  show rest.foldl (· ^^^ ·) (0 ^^^ byte) = _
  rw [foldl_xor, UInt8.zero_xor]

theorem xorAll_append (a b : List UInt8) : xorAll (a ++ b) = xorAll a ^^^ xorAll b := by
  show (a ++ b).foldl (· ^^^ ·) 0 = _
  rw [List.foldl_append, foldl_xor]
  rfl

/-- **The exclusive or of the changes** is what they change the exclusive or by. -/
theorem xorAll_differences {a b : List UInt8} (hlen : a.length = b.length) :
    xorAll (differences a b) = xorAll a ^^^ xorAll b := by
  induction a generalizing b with
  | nil =>
    obtain rfl := List.length_eq_zero_iff.mp hlen.symm
    rfl
  | cons x a ih =>
    cases b with
    | nil => simp at hlen
    | cons y b =>
      have hrest := ih (b := b) (by simpa using hlen)
      show xorAll ((x ^^^ y) :: differences a b) = _
      rw [xorAll_cons, xorAll_cons, xorAll_cons, hrest]
      ac_rfl

/-- **One changed byte changes the exclusive or.** -/
theorem DifferOnce.xorAll_ne {a b : List UInt8} (hlen : a.length = b.length)
    (h : DifferOnce a b) : xorAll a ≠ xorAll b := by
  induction a generalizing b with
  | nil =>
    -- two empty strings differ nowhere
    obtain rfl := List.length_eq_zero_iff.mp hlen.symm
    obtain ⟨i, hi, -⟩ := h
    exact absurd rfl hi
  | cons x a ih =>
    cases b with
    | nil => simp at hlen
    | cons y b =>
      rw [xorAll_cons, xorAll_cons]
      obtain ⟨i, hi, hrest⟩ := h
      cases i with
      | zero =>
        -- the first bytes differ, and all that follows them is the same
        have hsame : a = b := by
          apply List.ext_getElem?
          intro j
          simpa using hrest (j + 1) (by omega)
        rw [hsame]
        intro heq
        simp [(UInt8.xor_left_inj _).mp heq] at hi
      | succ i =>
        have hfirst : x = y := by simpa using hrest 0 (by omega)
        rw [hfirst]
        intro heq
        refine ih (by simpa using hlen) ⟨i, by simpa using hi, ?_⟩ ((UInt8.xor_right_inj _).mp heq)
        intro j hj
        simpa using hrest (j + 1) (by omega)

/-! ## §2. Frames that are accepted -/

/-- A byte string is accepted: a frame is read from it, and verifies. -/
def Accepted (bytes : List UInt8) : Prop :=
  ∃ f, DataFrame.ofBytes bytes = .ok f ∧ f.verify = .ok ()

namespace DataFrame

/-- **A frame carries the right checksum** exactly if what follows its length
    byte comes to the exclusive or that the length calls for. -/
theorem checksum_eq_iff {f : DataFrame} :
    f.checksum = f.computedChecksum ↔ xorAll f.body = 0xFF ^^^ f.length := by
  have hbody : xorAll f.body
      = f.kind.toByte ^^^ f.commandId ^^^ xorAll f.payload ^^^ f.checksum := by
    simp only [body, xorAll_cons, xorAll_append]
    rw [show xorAll [] = 0 from rfl, UInt8.xor_zero]
    ac_rfl
  have hcomputed : f.computedChecksum
      = f.kind.toByte ^^^ f.commandId ^^^ xorAll f.payload ^^^ (0xFF ^^^ f.length) := by
    unfold computedChecksum ZWaveHost.checksum
    rw [foldl_xor]
    ac_rfl
  rw [hbody, hcomputed]
  -- from one side to the other by the same exclusive or
  generalize f.kind.toByte ^^^ f.commandId ^^^ xorAll f.payload = fields
  constructor
  · intro h
    rw [h, ← UInt8.xor_assoc, UInt8.xor_self, UInt8.zero_xor]
  · intro h
    rw [← h, ← UInt8.xor_assoc, UInt8.xor_self, UInt8.zero_xor]

end DataFrame

/-- **What is accepted**, of the byte strings that are as long as their length
    byte says. -/
theorem accepted_iff {length : UInt8} {body : List UInt8} (hmin : ¬ length < minFrameLength)
    (hlen : body.length = length.toNat) :
    Accepted (FrameType.sof.toByte :: length :: body)
      ↔ (∃ kind : FrameKind, body.head? = some kind.toByte)
        ∧ xorAll body = 0xFF ^^^ length := by
  constructor
  · rintro ⟨f, hread, hgood⟩
    obtain ⟨hfits, hfront⟩ := DataFrame.ofBytes_eq_ok_iff.mp hread
    rw [List.cons_prefix_cons, List.cons_prefix_cons] at hfront
    obtain ⟨-, hlength, hprefix⟩ := hfront
    -- a prefix that is as long as the whole is the whole
    have hbody : f.body = body := by
      apply hprefix.eq_of_length
      rw [DataFrame.length_body, hlen, ← hlength]
      exact hfits.symm
    refine ⟨⟨f.kind, by rw [← hbody]; rfl⟩, ?_⟩
    rw [← hbody, ← hlength]
    exact DataFrame.checksum_eq_iff.mp (DataFrame.verify_eq_ok_iff.mp hgood)
  · rintro ⟨⟨kind, hkind⟩, hxor⟩
    obtain ⟨f, rfl, hfits, rfl⟩ := DataFrame.exists_of_kind hmin hlen hkind
    refine ⟨f, DataFrame.ofBytes_eq_ok_iff.mpr ⟨hfits, List.prefix_refl _⟩, ?_⟩
    exact DataFrame.verify_eq_ok_iff.mpr (DataFrame.checksum_eq_iff.mpr hxor)

/-- A kind byte is 0 or 1. -/
theorem exists_kind_iff {first : Option UInt8} :
    (∃ kind : FrameKind, first = some kind.toByte) ↔ first = some 0 ∨ first = some 1 := by
  constructor
  · rintro ⟨kind, rfl⟩
    cases kind
    · exact .inl rfl
    · exact .inr rfl
  · rintro (rfl | rfl)
    · exact ⟨.request, rfl⟩
    · exact ⟨.response, rfl⟩

/-- **Which corruptions pass.**  Let a frame be built and sent, and let what
    arrives be as long and begin with the same two bytes.  It is accepted
    exactly if its kind byte is 0 or 1 and the changes behind the first two
    bytes cancel out.  So what differs from the frame in one byte only is
    refused, whichever byte that is. -/
theorem corruption_accepted_iff {kind : FrameKind} {commandId : UInt8} {payload : List UInt8}
    {f : DataFrame} (hbuild : DataFrame.build kind commandId payload = .ok f) (got : List UInt8)
    (hlen : got.length = f.toBytes.length) (hfront : got.take 2 = f.toBytes.take 2) :
    (Accepted got ↔ (got[2]? = some 0 ∨ got[2]? = some 1)
        ∧ xorAll (differences (got.drop 2) (f.toBytes.drop 2)) = 0)
      ∧ (DifferOnce got f.toBytes → ¬ Accepted got) := by
  obtain ⟨hfits, hsum, -⟩ := DataFrame.fits_of_build hbuild
  have hsent : f.toBytes = FrameType.sof.toByte :: f.length :: f.body :=
    DataFrame.toBytes_eq_body hsum
  have hfit : f.body.length = f.length.toNat := by
    rw [DataFrame.length_body]
    exact hfits.symm
  have hmin : ¬ f.length < minFrameLength := by
    apply DataFrame.not_lt_minFrameLength.mpr
    rw [← hfit, DataFrame.length_body]
    omega
  rw [hsent] at hlen hfront ⊢
  -- what arrives is another body behind the same front
  obtain ⟨body, rfl⟩ : ∃ body, got = FrameType.sof.toByte :: f.length :: body := by
    refine ⟨got.drop 2, ?_⟩
    rw [← List.take_append_drop 2 got, hfront]
    rfl
  have hbody : body.length = f.body.length := by simpa using hlen
  have haccepted := accepted_iff hmin (hbody.trans hfit)
  rw [← DataFrame.checksum_eq_iff.mp hsum] at haccepted
  constructor
  · rw [haccepted, exists_kind_iff, List.head?_eq_getElem?]
    show _ ↔ _ ∧ xorAll (differences body f.body) = 0
    rw [xorAll_differences hbody, UInt8.xor_eq_zero_iff]
    rfl
  · intro honce hgot
    apply honce.xorAll_ne hlen
    rw [xorAll_cons, xorAll_cons, xorAll_cons, xorAll_cons, (haccepted.mp hgot).2]

/-- A kind byte and a checksum that change together pass; a payload byte that
    changes alone does not. -/
theorem corruption_accepted_in_two_bytes :
    let f : DataFrame := ⟨5, .request, 0x13, [0x02, 0x01], 0xEA⟩
    DataFrame.build .request 0x13 [0x02, 0x01] = .ok f
      ∧ Accepted [0x01, 0x05, 0x01, 0x13, 0x02, 0x01, 0xEB]
      ∧ ¬ Accepted [0x01, 0x05, 0x00, 0x13, 0x02, 0x03, 0xEA] := by
  intro f
  have hbuild : DataFrame.build .request 0x13 [0x02, 0x01] = .ok f := rfl
  have hsent : f.toBytes = [0x01, 0x05, 0x00, 0x13, 0x02, 0x01, 0xEA] := by decide
  have hboth := corruption_accepted_iff hbuild [0x01, 0x05, 0x01, 0x13, 0x02, 0x01, 0xEB] rfl rfl
  have hone := corruption_accepted_iff hbuild [0x01, 0x05, 0x00, 0x13, 0x02, 0x03, 0xEA] rfl rfl
  rw [hsent] at hboth hone
  refine ⟨hbuild, hboth.1.mpr ⟨.inr rfl, by decide⟩, hone.2 ⟨5, by decide, ?_⟩⟩
  intro j hj
  match j with
  | 0 | 1 | 2 | 3 | 4 | 6 => rfl
  | 5 => exact absurd rfl hj
  | j + 7 => rfl

end ZWaveHost
