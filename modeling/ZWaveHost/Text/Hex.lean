/-
  ZWaveHost.Text.Hex — bytes in base sixteen.

  Messages show a byte as `0x0a`, a dump of a buffer shows it as `0x0A`,
  and an escaped character shows its code point with no padding at all.
-/

namespace ZWaveHost.Text

/-- The two lower-case digits of a byte. -/
def hexDigits (b : UInt8) : List Char :=
  [Nat.digitChar (b.toNat / 16), Nat.digitChar (b.toNat % 16)]

/-- A byte in a message: `0x` and two lower-case digits. -/
def hexByte (b : UInt8) : String :=
  String.ofList ('0' :: 'x' :: hexDigits b)

/-- A byte in a dump: `0x` and two upper-case digits. -/
def hexByteUpper (b : UInt8) : String :=
  String.ofList ('0' :: 'x' :: (hexDigits b).map Char.toUpper)

/-- A code point in lower-case digits, without padding. -/
def hexCode (n : Nat) : List Char :=
  Nat.toDigits 16 n

/-- The value of one digit, in either case. -/
def hexValue? (c : Char) : Option Nat :=
  if '0' ≤ c ∧ c ≤ '9' then some (c.toNat - '0'.toNat)
  else if 'a' ≤ c ∧ c ≤ 'f' then some (c.toNat - 'a'.toNat + 10)
  else if 'A' ≤ c ∧ c ≤ 'F' then some (c.toNat - 'A'.toNat + 10)
  else none

end ZWaveHost.Text
