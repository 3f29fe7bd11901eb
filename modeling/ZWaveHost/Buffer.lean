/-
  ZWaveHost.Buffer — a payload under a read cursor.

  A buffer has a fixed length.  Reads at an index and writes leave the
  cursor alone; sequential reads move it past what they return, and a read
  that asks for more bytes than are left moves nothing.  `Decode` is the
  reading of a value: a failure part of the way keeps the cursor where the
  last good read left it.
-/
import ZWaveHost.Text.Hex
import ZWaveHost.Text.Quoted

namespace ZWaveHost

/-- Why a payload has no value. -/
inductive CodecError where
  /-- A sequential read past the end of a buffer of `length` bytes. -/
  | bufferUnderflow (length : Nat)
  /-- An access at an index outside a buffer of `length` bytes. -/
  | indexOutOfBounds (index length : Nat)
  /-- A field that does not admit the byte found there. -/
  | invalidValue (field : String) (value : UInt8)
  /-- A version text that names no version. -/
  | invalidVersion (text : String)
  deriving DecidableEq

/-- The wording of a codec error. -/
def CodecError.message : CodecError → String
  | .bufferUnderflow length => s!"Buffer underflow: read past end of {length}-byte buffer"
  | .indexOutOfBounds index length => s!"Index {index} out of bounds for {length}-byte buffer"
  | .invalidValue field value => "Invalid value " ++ Text.hexByte value ++ " for " ++ field
  | .invalidVersion text => "No version number in " ++ Text.quoted text

/-- Bytes and the number of them already read. -/
structure Buffer where
  bytes : List UInt8
  cursor : Nat
  deriving DecidableEq

/-- A reading of a value from a buffer. -/
abbrev Decode (α : Type) := ExceptT CodecError (StateM Buffer) α

namespace Buffer

/-! ## §1. Making and viewing -/

/-- A buffer of the given bytes, none of them read. -/
def ofBytes (bytes : List UInt8) : Buffer := ⟨bytes, 0⟩

/-- A buffer without bytes. -/
def empty : Buffer := ofBytes []

/-- A buffer of zeros. -/
def zeros (length : Nat) : Buffer := ofBytes (List.replicate length 0)

/-- How many bytes a buffer holds, read or not. -/
def length (b : Buffer) : Nat := b.bytes.length

/-- How many bytes are left to read. -/
def remaining (b : Buffer) : Nat := b.length - b.cursor

/-- Whether a byte is left to read. -/
def hasNext (b : Buffer) : Bool := b.cursor < b.length

/-- The bytes as a list of hexadecimal numbers. -/
def dump (b : Buffer) : String :=
  "[" ++ String.intercalate "," (b.bytes.map Text.hexByteUpper) ++ "]"

/-! ## §2. Access at an index -/

/-- The byte at an index. -/
protected def get (b : Buffer) (index : Nat) : Except CodecError UInt8 :=
  match b.bytes[index]? with
  | some value => .ok value
  | none => .error (.indexOutOfBounds index b.length)

/-- The buffer with another byte at an index. -/
protected def set (b : Buffer) (index : Nat) (value : UInt8) : Except CodecError Buffer :=
  if index < b.length then .ok { b with bytes := b.bytes.set index value }
  else .error (.indexOutOfBounds index b.length)

/-! ## §3. Sequential reads -/

/-- The next `count` bytes. -/
def nextBytes (count : Nat) : Decode (List UInt8) := fun b =>
  if b.remaining < count then (.error (.bufferUnderflow b.length), b)
  else (.ok ((b.bytes.drop b.cursor).take count), { b with cursor := b.cursor + count })

/-- The next byte. -/
def next : Decode UInt8 := fun b =>
  match b.bytes[b.cursor]? with
  | some value => (.ok value, { b with cursor := b.cursor + 1 })
  | none => (.error (.bufferUnderflow b.length), b)

/-- The number whose digits in base 256 are the given bytes, the highest first. -/
def bigEndian (bytes : List UInt8) : Nat :=
  bytes.foldl (fun n b => n * 256 + b.toNat) 0

/-- The next two bytes as a number. -/
def nextUInt16 : Decode UInt16 := do
  return UInt16.ofNat (bigEndian (← nextBytes 2))

/-- The next three bytes as a number. -/
def nextUInt24 : Decode UInt32 := do
  return UInt32.ofNat (bigEndian (← nextBytes 3))

/-- The next four bytes as a number. -/
def nextUInt32 : Decode UInt32 := do
  return UInt32.ofNat (bigEndian (← nextBytes 4))

/-- The byte at an index, wherever the cursor stands. -/
def peek (index : Nat) : Decode UInt8 := fun b => (b.get index, b)

/-- The next byte, if one is left. -/
def next? : Decode (Option UInt8) := do
  if (← get).hasNext then return some (← next) else return none

/-- All bytes that are left. -/
def nextRest : Decode (List UInt8) := do
  nextBytes (← get).remaining

end Buffer

/-- A reading that fails without moving the cursor. -/
def Decode.fail {α : Type} (error : CodecError) : Decode α := throw error

/-- The result of a reading, and the buffer it leaves. -/
def Decode.run {α : Type} (reading : Decode α) (b : Buffer) : Except CodecError α × Buffer :=
  StateT.run (ExceptT.run reading) b

end ZWaveHost
