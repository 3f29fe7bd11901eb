/-
  ZWaveHost.Proofs.Text.ByteOrder — texts are in the order of their bytes.

  A character is written as its digits in base 64, the highest in the first byte
  and each of the others in a byte of its own (`spelled`).  With as many bytes, the
  first digit in which two characters differ decides; with fewer bytes, the first
  byte alone is smaller.  So bytes and code points order texts alike.

  Main result: `utf8_lt_iff`.
-/
import Mathlib.Algebra.Group.Nat.Defs
import ZWaveHost.Proofs.Text.Utf8

namespace ZWaveHost.Text

/-! ## §1. A character in base 64 -/

/-- The lowest digits of a number, so many of them, each in a byte. -/
def tailBytes : Nat → Nat → List UInt8
  | 0, _ => []
  | count + 1, n => tailBytes count (n / 64) ++ [tailByte n]

/-- The first byte of a character, which tells how many follow it. -/
def leadByte : Nat → Nat → UInt8
  | 0, digit => UInt8.ofNat digit
  | 1, digit => UInt8.ofNat (digit % 32 + 192)
  | 2, digit => UInt8.ofNat (digit % 16 + 224)
  | _, digit => UInt8.ofNat (digit % 8 + 240)

/-- A number written as a character of which so many bytes follow the first. -/
def spelled (count n : Nat) : List UInt8 := leadByte count (n / 64 ^ count) :: tailBytes count n

/-- How many bytes follow the first byte of a character. -/
def tailCount (c : Char) : Nat :=
  if c.toNat ≤ 0x7F then 0 else if c.toNat ≤ 0x7FF then 1 else if c.toNat ≤ 0xFFFF then 2 else 3

theorem utf8EncodeChar_eq_spelled (c : Char) :
    String.utf8EncodeChar c = spelled (tailCount c) c.toNat := by
  rw [utf8EncodeChar_eq, tailCount]
  split
  · show _ = [UInt8.ofNat (c.toNat / 1)]
    rw [Nat.div_one]
  split
  · rfl
  split
  · show _ = [UInt8.ofNat (c.toNat / 4096 % 16 + 224), tailByte (c.toNat / 64), tailByte c.toNat]
    rfl
  · show _ = [UInt8.ofNat (c.toNat / 262144 % 8 + 240), tailByte (c.toNat / 64 / 64),
      tailByte (c.toNat / 64), tailByte c.toNat]
    rw [Nat.div_div_eq_div_mul]

/-! ## §2. The first difference decides -/

variable {n m count : Nat} {u v : List UInt8}

theorem cons_lt_cons {x y : UInt8} (hlt : x.toNat < y.toNat) : x :: u < y :: v :=
  List.cons_lt_cons_iff.mpr (.inl (UInt8.lt_iff_toNat_lt.mpr hlt))

/-- **With as many bytes**, the smaller number is written first, if its first digit
    makes the smaller byte. -/
theorem spelled_lt (lead : Nat → UInt8)
    (hlead : ∀ a b, a < b → b ≤ m / 64 ^ count → (lead a).toNat < (lead b).toNat) (hlt : n < m) :
    (lead (n / 64 ^ count) :: tailBytes count n) ++ u
      < (lead (m / 64 ^ count) :: tailBytes count m) ++ v := by
  induction count generalizing n m u v with
  | zero =>
    rw [Nat.pow_zero, Nat.div_one, Nat.div_one] at *
    exact cons_lt_cons (hlead n m hlt (Nat.le_refl m))
  | succ count ih =>
    have hsplit (k : Nat) : k / 64 ^ (count + 1) = k / 64 / 64 ^ count := by
      rw [Nat.div_div_eq_div_mul, Nat.pow_succ']
    rw [hsplit] at hlead
    rw [hsplit, hsplit, tailBytes, tailBytes, ← List.cons_append, ← List.cons_append,
      List.append_assoc, List.append_assoc]
    -- either the digits above the last one differ, or the last one does
    rcases Nat.lt_or_ge (n / 64) (m / 64) with habove | hsame
    · exact ih hlead habove
    · have heq : n / 64 = m / 64 := by omega
      rw [heq]
      apply List.append_left_lt
      apply cons_lt_cons
      rw [toNat_tailByte, toNat_tailByte]
      omega

/-- What the first byte adds to its digit. -/
def leadBase : Nat → Nat
  | 0 => 0
  | 1 => 192
  | 2 => 224
  | _ => 240

/-- How many digits the first byte may carry. -/
def leadDigits : Nat → Nat
  | 0 => 128
  | 1 => 32
  | 2 => 16
  | _ => 8

theorem toNat_leadByte {digit : Nat} (hdigit : digit < leadDigits count) :
    (leadByte count digit).toNat = digit + leadBase count := by
  match count, hdigit with
  | 0, hdigit => exact toNat_ofNat_byte (Nat.lt_trans hdigit (by decide))
  | 1, hdigit =>
    have hdigit : digit < 32 := hdigit
    rw [leadByte, toNat_ofNat_byte (by omega), Nat.mod_eq_of_lt hdigit]
    rfl
  | 2, hdigit =>
    have hdigit : digit < 16 := hdigit
    rw [leadByte, toNat_ofNat_byte (by omega), Nat.mod_eq_of_lt hdigit]
    rfl
  | k + 3, hdigit =>
    have hdigit : digit < 8 := hdigit
    have hlead : leadByte (k + 3) digit = UInt8.ofNat (digit % 8 + 240) := rfl
    rw [hlead, toNat_ofNat_byte (by omega), Nat.mod_eq_of_lt hdigit]
    rfl

variable {c d : Char}

/-- The first digit of a character is one that its first byte may carry. -/
theorem digit_lt (c : Char) : c.toNat / 64 ^ tailCount c < leadDigits (tailCount c) := by
  have hvalid : c.toNat < 0xD800 ∨ 0xDFFF < c.toNat ∧ c.toNat < 0x110000 := c.valid
  unfold tailCount
  split
  · show c.toNat / 1 < 128
    omega
  split
  · show c.toNat / 64 < 32
    omega
  split
  · show c.toNat / 4096 < 16
    omega
  · show c.toNat / 262144 < 8
    omega

theorem tailCount_le (hlt : c.toNat < d.toNat) : tailCount c ≤ tailCount d ∧ tailCount d ≤ 3 := by
  grind [tailCount]

/-- **With fewer bytes behind it**, the first byte is smaller. -/
theorem leadBase_lt {i j : Nat} (hlt : i < j) (hle : j ≤ 3) :
    leadDigits i + leadBase i ≤ leadBase j := by
  have hall : ∀ j ≤ 3, ∀ i < j, leadDigits i + leadBase i ≤ leadBase j := by decide
  exact hall j hle i hlt

/-- **The smaller character has the smaller bytes**, whatever stands behind them. -/
theorem utf8EncodeChar_lt (hlt : c.toNat < d.toNat) :
    String.utf8EncodeChar c ++ u < String.utf8EncodeChar d ++ v := by
  obtain ⟨hle, htop⟩ := tailCount_le hlt
  have hc := digit_lt c
  have hd := digit_lt d
  rw [utf8EncodeChar_eq_spelled, utf8EncodeChar_eq_spelled]
  rcases Nat.lt_or_eq_of_le hle with hfewer | hsame
  · have hbase := leadBase_lt hfewer htop
    apply cons_lt_cons
    rw [toNat_leadByte hc, toNat_leadByte hd]
    calc c.toNat / 64 ^ tailCount c + leadBase (tailCount c)
      _ < leadDigits (tailCount c) + leadBase (tailCount c) := Nat.add_lt_add_right hc _
      _ ≤ leadBase (tailCount d) := hbase
      _ ≤ d.toNat / 64 ^ tailCount d + leadBase (tailCount d) := Nat.le_add_left _ _
  · rw [hsame]
    refine spelled_lt (leadByte (tailCount d)) ?_ hlt
    intro a b hab hb
    rw [toNat_leadByte (by omega), toNat_leadByte (by omega)]
    omega

/-! ## §3. Texts -/

theorem flatMap_lt {cs ds : List Char} (hlt : cs < ds) :
    cs.flatMap String.utf8EncodeChar < ds.flatMap String.utf8EncodeChar := by
  induction hlt with
  | nil =>
    rename_i d ds
    rw [List.flatMap_cons, List.flatMap_nil, utf8EncodeChar_eq_spelled]
    exact List.nil_lt_cons _ _
  | rel hchar => exact utf8EncodeChar_lt (Char.lt_def.mp hchar)
  | cons _ ih => exact List.append_left_lt ih

/-- **Texts are in the order of their bytes.** -/
theorem utf8_lt_iff {s t : String} : utf8 s < utf8 t ↔ s < t := by
  have hmono {s t : String} (hlt : s < t) : utf8 s < utf8 t := by
    rw [utf8_eq_flatMap, utf8_eq_flatMap]
    exact flatMap_lt hlt
  refine ⟨fun hlt => ?_, hmono⟩
  -- the other ways to compare would turn the bytes round
  rcases Std.lt_trichotomy s t with hst | rfl | hts
  · exact hst
  · exact absurd hlt (List.lt_irrefl _)
  · exact absurd hlt (List.lt_asymm (hmono hts))

end ZWaveHost.Text
