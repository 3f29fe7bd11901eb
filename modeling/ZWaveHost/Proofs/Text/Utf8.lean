/-
  ZWaveHost.Proofs.Text.Utf8 — texts and the bytes that stand for them.

  A character takes one to four bytes.  The first byte says how many follow it,
  and each byte that follows carries six bits.  `nextChar` is followed through the
  four lengths, on numbers rather than on words; that the range for the second
  byte lets every character through is where the limits of `followers?` matter.

  Main results:
    * `nextChar_utf8EncodeChar` — the bytes of a character are taken as that
      character, whatever stands behind them.
    * `decodeLossy_utf8_append` — a text and ASCII bytes behind it are read as they
      are, without a replacement.
-/
import ZWaveHost.Text.Utf8

namespace ZWaveHost.Text

/-! ## §1. Bytes as numbers -/

theorem toNat_ofNat_byte {n : Nat} (hn : n < 256) : (UInt8.ofNat n).toNat = n := by
  rw [UInt8.toNat_ofNat']
  omega

/-- A byte that carries six bits of a character. -/
def tailByte (bits : Nat) : UInt8 := UInt8.ofNat (bits % 64 + 128)

theorem toNat_tailByte (bits : Nat) : (tailByte bits).toNat = bits % 64 + 128 :=
  toNat_ofNat_byte (by omega)

theorem payloadBits_tailByte (bits : Nat) : payloadBits (tailByte bits) = bits % 64 := by
  rw [payloadBits, toNat_tailByte]
  omega

theorem isContinuation_tailByte (bits : Nat) : isContinuation (tailByte bits) = true := by
  have hall : ∀ n < 64, isContinuation (UInt8.ofNat (n + 128)) = true := by decide
  exact hall _ (Nat.mod_lt _ (by decide))

/-! ## §2. The first byte -/

/-- What the first byte says of the bytes behind it: behind 0xC2 to 0xDF there is
    one, which may carry any bits. -/
theorem followers?_one : ∀ k < 32, 2 ≤ k →
    followers? (UInt8.ofNat (k + 192)) = some (1, 0x80, 0xBF) := by
  decide

/-- Behind 0xE0 to 0xEF there are two.  The range of the first of them keeps out
    overlong forms and surrogates. -/
theorem followers?_two : ∀ k < 16, followers? (UInt8.ofNat (k + 224))
    = some (2, if k = 0 then 0xA0 else 0x80, if k = 13 then 0x9F else 0xBF) := by
  decide

/-- Behind 0xF0 to 0xF4 there are three.  The range of the first of them keeps out
    overlong forms and what is above U+10FFFF. -/
theorem followers?_three : ∀ k < 5, followers? (UInt8.ofNat (k + 240))
    = some (3, if k = 0 then 0x90 else 0x80, if k = 4 then 0x8F else 0xBF) := by
  decide

/-! ## §3. One character -/

section

variable {n bits₁ bits₂ bits₃ : Nat} {low high : UInt8} {rest : List UInt8}

theorem not_ascii (hn : 128 ≤ n) (hbyte : n < 256) : ¬ UInt8.ofNat n < 0x80 := by
  rw [UInt8.lt_iff_toNat_lt, toNat_ofNat_byte hbyte]
  exact Nat.not_lt.mpr hn

/-- The range check on the second byte. -/
theorem tailByte_in_range (hlow : low.toNat ≤ bits₁ % 64 + 128)
    (hhigh : bits₁ % 64 + 128 ≤ high.toNat) :
    (tailByte bits₁ < low || high < tailByte bits₁) = false := by
  simp only [Bool.or_eq_false_iff, decide_eq_false_iff_not, UInt8.lt_iff_toNat_lt,
    toNat_tailByte]
  omega

/-- One byte follows. -/
theorem nextChar_one (hn : 128 ≤ n) (hbyte : n < 256)
    (hfollowers : followers? (UInt8.ofNat n) = some (1, low, high))
    (hlow : low.toNat ≤ bits₁ % 64 + 128) (hhigh : bits₁ % 64 + 128 ≤ high.toNat) :
    nextChar (UInt8.ofNat n) (tailByte bits₁ :: rest)
      = (some (Char.ofNat (n % 32 * 64 + bits₁ % 64)), 1) := by
  simp [nextChar, not_ascii hn hbyte, hfollowers, tailByte_in_range hlow hhigh,
    toNat_ofNat_byte hbyte, payloadBits_tailByte]

/-- Two bytes follow. -/
theorem nextChar_two (hn : 128 ≤ n) (hbyte : n < 256)
    (hfollowers : followers? (UInt8.ofNat n) = some (2, low, high))
    (hlow : low.toNat ≤ bits₁ % 64 + 128) (hhigh : bits₁ % 64 + 128 ≤ high.toNat) :
    nextChar (UInt8.ofNat n) (tailByte bits₁ :: tailByte bits₂ :: rest)
      = (some (Char.ofNat ((n % 16 * 64 + bits₁ % 64) * 64 + bits₂ % 64)), 2) := by
  simp [nextChar, not_ascii hn hbyte, hfollowers, tailByte_in_range hlow hhigh,
    toNat_ofNat_byte hbyte, payloadBits_tailByte, isContinuation_tailByte]

/-- Three bytes follow. -/
theorem nextChar_three (hn : 128 ≤ n) (hbyte : n < 256)
    (hfollowers : followers? (UInt8.ofNat n) = some (3, low, high))
    (hlow : low.toNat ≤ bits₁ % 64 + 128) (hhigh : bits₁ % 64 + 128 ≤ high.toNat) :
    nextChar (UInt8.ofNat n) (tailByte bits₁ :: tailByte bits₂ :: tailByte bits₃ :: rest)
      = (some (Char.ofNat
          (((n % 8 * 64 + bits₁ % 64) * 64 + bits₂ % 64) * 64 + bits₃ % 64)), 3) := by
  simp [nextChar, not_ascii hn hbyte, hfollowers, tailByte_in_range hlow hhigh,
    toNat_ofNat_byte hbyte, payloadBits_tailByte, isContinuation_tailByte]

variable {c : Char}

/-- A character below U+0080. -/
theorem nextChar_ascii (hc : c.toNat ≤ 0x7F) :
    nextChar (UInt8.ofNat c.toNat) rest = (some c, 0) := by
  have hbyte : (UInt8.ofNat c.toNat).toNat = c.toNat := toNat_ofNat_byte (by omega)
  have hascii : UInt8.ofNat c.toNat < 0x80 := by
    rw [UInt8.lt_iff_toNat_lt, hbyte]
    exact Nat.lt_succ_of_le hc
  rw [nextChar, if_pos hascii, hbyte, Char.ofNat_toNat]

/-- A character from U+0080 to U+07FF. -/
theorem nextChar_two_bytes (hlow : 0x7F < c.toNat) (hhigh : c.toNat ≤ 0x7FF) :
    nextChar (UInt8.ofNat (c.toNat / 64 % 32 + 192)) (tailByte c.toNat :: rest)
      = (some c, 1) := by
  have hfollowers := followers?_one (c.toNat / 64 % 32) (by omega) (by omega)
  have htop : c.toNat % 64 + 128 ≤ 191 := by omega
  have hvalue : (c.toNat / 64 % 32 + 192) % 32 * 64 + c.toNat % 64 = c.toNat := by omega
  rw [nextChar_one (by omega) (by omega) hfollowers (Nat.le_add_left _ _) htop, hvalue,
    Char.ofNat_toNat]

/-- A character from U+0800 to U+FFFF. -/
theorem nextChar_three_bytes (hlow : 0x7FF < c.toNat) (hhigh : c.toNat ≤ 0xFFFF) :
    nextChar (UInt8.ofNat (c.toNat / 4096 % 16 + 224))
        (tailByte (c.toNat / 64) :: tailByte c.toNat :: rest)
      = (some c, 2) := by
  have hfollowers := followers?_two (c.toNat / 4096 % 16) (by omega)
  -- it is not overlong
  have hbottom : (if c.toNat / 4096 % 16 = 0 then (0xA0 : UInt8) else 0x80).toNat
      ≤ c.toNat / 64 % 64 + 128 := by
    split
    · show 160 ≤ c.toNat / 64 % 64 + 128
      omega
    · exact Nat.le_add_left _ _
  -- and no surrogate
  have htop : c.toNat / 64 % 64 + 128
      ≤ (if c.toNat / 4096 % 16 = 13 then (0x9F : UInt8) else 0xBF).toNat := by
    have hvalid : c.toNat < 0xD800 ∨ 0xDFFF < c.toNat ∧ c.toNat < 0x110000 := c.valid
    split
    · show c.toNat / 64 % 64 + 128 ≤ 159
      omega
    · show c.toNat / 64 % 64 + 128 ≤ 191
      omega
  have hvalue : ((c.toNat / 4096 % 16 + 224) % 16 * 64 + c.toNat / 64 % 64) * 64
      + c.toNat % 64 = c.toNat := by omega
  rw [nextChar_two (by omega) (by omega) hfollowers hbottom htop, hvalue, Char.ofNat_toNat]

/-- A character above U+FFFF. -/
theorem nextChar_four_bytes (hlow : 0xFFFF < c.toNat) :
    nextChar (UInt8.ofNat (c.toNat / 262144 % 8 + 240))
        (tailByte (c.toNat / 4096) :: tailByte (c.toNat / 64) :: tailByte c.toNat :: rest)
      = (some c, 3) := by
  have hvalid : c.toNat < 0xD800 ∨ 0xDFFF < c.toNat ∧ c.toNat < 0x110000 := c.valid
  have hfollowers := followers?_three (c.toNat / 262144 % 8) (by omega)
  -- it is not overlong
  have hbottom : (if c.toNat / 262144 % 8 = 0 then (0x90 : UInt8) else 0x80).toNat
      ≤ c.toNat / 4096 % 64 + 128 := by
    split
    · show 144 ≤ c.toNat / 4096 % 64 + 128
      omega
    · exact Nat.le_add_left _ _
  -- and not above U+10FFFF
  have htop : c.toNat / 4096 % 64 + 128
      ≤ (if c.toNat / 262144 % 8 = 4 then (0x8F : UInt8) else 0xBF).toNat := by
    split
    · show c.toNat / 4096 % 64 + 128 ≤ 143
      omega
    · show c.toNat / 4096 % 64 + 128 ≤ 191
      omega
  have hvalue : (((c.toNat / 262144 % 8 + 240) % 8 * 64 + c.toNat / 4096 % 64) * 64
      + c.toNat / 64 % 64) * 64 + c.toNat % 64 = c.toNat := by omega
  rw [nextChar_three (by omega) (by omega) hfollowers hbottom htop, hvalue, Char.ofNat_toNat]

end

/-- The bytes of a character, by its size. -/
theorem utf8EncodeChar_eq (c : Char) : String.utf8EncodeChar c =
    if c.toNat ≤ 0x7F then [UInt8.ofNat c.toNat]
    else if c.toNat ≤ 0x7FF then [UInt8.ofNat (c.toNat / 64 % 32 + 192), tailByte c.toNat]
    else if c.toNat ≤ 0xFFFF then
      [UInt8.ofNat (c.toNat / 4096 % 16 + 224), tailByte (c.toNat / 64), tailByte c.toNat]
    else
      [UInt8.ofNat (c.toNat / 262144 % 8 + 240), tailByte (c.toNat / 4096),
        tailByte (c.toNat / 64), tailByte c.toNat] := rfl

/-- **The bytes of a character are taken as that character**, whatever stands behind
    them. -/
theorem nextChar_utf8EncodeChar (c : Char) (rest : List UInt8) :
    ∃ b tail, String.utf8EncodeChar c = b :: tail
      ∧ nextChar b (tail ++ rest) = (some c, tail.length) := by
  rw [utf8EncodeChar_eq]
  split
  · next hone => exact ⟨_, _, rfl, nextChar_ascii hone⟩
  split
  · next hone htwo => exact ⟨_, _, rfl, nextChar_two_bytes (Nat.not_le.mp hone) htwo⟩
  split
  · next _ htwo hthree => exact ⟨_, _, rfl, nextChar_three_bytes (Nat.not_le.mp htwo) hthree⟩
  · next hthree => exact ⟨_, _, rfl, nextChar_four_bytes (Nat.not_le.mp hthree)⟩

/-! ## §4. Texts -/

/-- The bytes of a text. -/
def utf8 (text : String) : List UInt8 := text.toByteArray.data.toList

/-- The bytes of a text are those of its characters in turn. -/
theorem utf8_eq_flatMap (text : String) : utf8 text = text.toList.flatMap String.utf8EncodeChar := by
  rw [utf8, ← String.utf8Encode_toList, List.utf8Encode, List.data_toByteArray]

/-- The first character is one part, and the rest is taken apart alone. -/
theorem parts_utf8EncodeChar_append (c : Char) (rest : List UInt8) :
    parts (String.utf8EncodeChar c ++ rest) = some c :: parts rest := by
  obtain ⟨b, tail, hbytes, hnext⟩ := nextChar_utf8EncodeChar c rest
  rw [hbytes, List.cons_append, parts, hnext, List.drop_left]

/-- **A text is taken apart into its characters**, whatever stands behind it. -/
theorem parts_utf8_append (text : String) (rest : List UInt8) :
    parts (utf8 text ++ rest) = text.toList.map some ++ parts rest := by
  rw [utf8_eq_flatMap]
  induction text.toList with
  | nil => rfl
  | cons c cs ih =>
    rw [List.flatMap_cons, List.append_assoc, parts_utf8EncodeChar_append, ih]
    rfl

/-- **The bytes of a text are read as that text.** -/
theorem decode?_utf8 (text : String) : decode? (utf8 text) = some text := by
  have hparts : parts (utf8 text) = text.toList.map some := by
    rw [← List.append_nil (utf8 text), parts_utf8_append, parts, List.append_nil]
  have hall : (text.toList.map some).mapM id = some text.toList := by
    induction text.toList with
    | nil => rfl
    | cons c cs ih => rw [List.map_cons, List.mapM_cons, ih]; rfl
  rw [decode?, hparts, hall, Option.map_some, String.ofList_toList]

/-- The text of ASCII bytes. -/
def asciiText (bytes : List UInt8) : List Char := bytes.map fun b => Char.ofNat b.toNat

/-- An ASCII byte is a character by itself. -/
theorem parts_ascii {bytes : List UInt8} (hascii : ∀ b ∈ bytes, b < 0x80) :
    parts bytes = (asciiText bytes).map some := by
  induction bytes with
  | nil => rw [parts, asciiText, List.map_nil, List.map_nil]
  | cons b bytes ih =>
    obtain ⟨hb, hbytes⟩ := List.forall_mem_cons.mp hascii
    have hnext : nextChar b bytes = (some (Char.ofNat b.toNat), 0) := by rw [nextChar, if_pos hb]
    rw [parts, hnext, List.drop_zero, ih hbytes]
    rfl

/-- **A text and ASCII bytes behind it** are read as they are. -/
theorem decodeLossy_utf8_append (text : String) {bytes : List UInt8}
    (hascii : ∀ b ∈ bytes, b < 0x80) :
    decodeLossy (utf8 text ++ bytes) = String.ofList (text.toList ++ asciiText bytes) := by
  rw [decodeLossy, parts_utf8_append, parts_ascii hascii, ← List.map_append, List.map_map]
  exact congrArg String.ofList (List.map_id _)

end ZWaveHost.Text
