/-
  ZWaveHost.Text.Utf8 — characters from bytes.

  `nextChar` takes one character off the front of a byte string, or the
  longest part that could still have begun one.  Reading strictly refuses
  such a part (`decode?`); reading leniently puts U+FFFD in its place
  (`decodeLossy`), one for each part.
-/

namespace ZWaveHost.Text

/-- What stands for an ill-formed part. -/
def replacement : Char := '\uFFFD'

/-- Whether a byte continues a character. -/
def isContinuation (b : UInt8) : Bool := b &&& 0xC0 == 0x80

/-- The six bits that a continuation byte carries. -/
def payloadBits (b : UInt8) : Nat := b.toNat % 64

/-- How many bytes follow a lead byte, and the range its first follower
    must lie in: the range keeps out overlong forms, surrogates and code
    points above U+10FFFF. -/
def followers? (b : UInt8) : Option (Nat × UInt8 × UInt8) :=
  if b < 0xC2 then none
  else if b < 0xE0 then some (1, 0x80, 0xBF)
  else if b = 0xE0 then some (2, 0xA0, 0xBF)
  else if b = 0xED then some (2, 0x80, 0x9F)
  else if b < 0xF0 then some (2, 0x80, 0xBF)
  else if b = 0xF0 then some (3, 0x90, 0xBF)
  else if b < 0xF4 then some (3, 0x80, 0xBF)
  else if b = 0xF4 then some (3, 0x80, 0x8F)
  else none

/-- The character that starts with the byte `b`, if it is well formed, and
    how many of the bytes after `b` were used up either way. -/
def nextChar (b : UInt8) (rest : List UInt8) : Option Char × Nat :=
  if b < 0x80 then (some (Char.ofNat b.toNat), 0)
  else
    match followers? b with
    | none => (none, 0)
    | some (count, low, high) =>
      match rest with
      | [] => (none, 0)
      | c1 :: rest1 =>
        if c1 < low || high < c1 then (none, 0)
        else if count = 1 then
          (some (Char.ofNat (b.toNat % 32 * 64 + payloadBits c1)), 1)
        else
          match rest1 with
          | [] => (none, 1)
          | c2 :: rest2 =>
            if !isContinuation c2 then (none, 1)
            else if count = 2 then
              (some (Char.ofNat ((b.toNat % 16 * 64 + payloadBits c1) * 64 + payloadBits c2)), 2)
            else
              match rest2 with
              | [] => (none, 2)
              | c3 :: _ =>
                if !isContinuation c3 then (none, 2)
                else
                  (some (Char.ofNat
                    (((b.toNat % 8 * 64 + payloadBits c1) * 64 + payloadBits c2) * 64
                      + payloadBits c3)), 3)

/-- The parts of a byte string in order: characters, and `none` for each
    ill-formed part. -/
def parts : List UInt8 → List (Option Char)
  | [] => []
  | b :: rest => (nextChar b rest).1 :: parts (rest.drop (nextChar b rest).2)
termination_by bytes => bytes.length
decreasing_by simp only [List.length_drop, List.length_cons]; omega

/-- The text of a byte string in which every part is a character. -/
def decode? (bytes : List UInt8) : Option String :=
  ((parts bytes).mapM id).map String.ofList

/-- The text of any byte string. -/
def decodeLossy (bytes : List UInt8) : String :=
  String.ofList ((parts bytes).map (·.getD replacement))

end ZWaveHost.Text
