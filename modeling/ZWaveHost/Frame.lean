/-
  ZWaveHost.Frame — what travels on the line.

  A control frame is a single byte.  A data frame is SOF, a length byte, a
  kind byte, a command id, a payload and a checksum; the length counts what
  follows it.  The checksum is kept as it was received, so a frame may fail
  to verify.
-/
import ZWaveHost.Text.Hex

namespace ZWaveHost

/-! ## §1. Types and limits -/

/-- The smallest length byte: kind, command id and checksum. -/
def minFrameLength : UInt8 := 3

/-- The largest length byte of a frame that is built here. -/
def maxFrameLength : UInt8 := 64

/-- The most payload bytes a frame that is built here may carry. -/
def maxPayloadLength : Nat := 61

/-- The four ways a frame begins. -/
inductive FrameType where
  | sof
  | ack
  | nak
  | can
  deriving DecidableEq, Inhabited

/-- The byte a frame begins with. -/
def FrameType.toByte : FrameType → UInt8
  | .sof => 0x01
  | .ack => 0x06
  | .nak => 0x15
  | .can => 0x18

/-- The way a frame that begins with the given byte begins. -/
def FrameType.ofByte? (b : UInt8) : Option FrameType :=
  if b = 0x01 then some .sof
  else if b = 0x06 then some .ack
  else if b = 0x15 then some .nak
  else if b = 0x18 then some .can
  else none

/-- The name of a frame type. -/
def FrameType.name : FrameType → String
  | .sof => "Sof"
  | .ack => "Ack"
  | .nak => "Nak"
  | .can => "Can"

/-- Which way a data frame goes: requests, unsolicited commands and
    callbacks are requests; the module's answers are responses. -/
inductive FrameKind where
  | request
  | response
  deriving DecidableEq, Inhabited

/-- The kind byte. -/
def FrameKind.toByte : FrameKind → UInt8
  | .request => 0x00
  | .response => 0x01

/-- The name of a frame kind. -/
def FrameKind.name : FrameKind → String
  | .request => "Request"
  | .response => "Response"

/-- Why bytes are no data frame, or a payload has no data frame. -/
inductive FrameError where
  /-- A length byte below the smallest. -/
  | invalidLength (length : UInt8)
  /-- A kind byte that is neither request nor response. -/
  | unknownKind (kind : UInt8)
  /-- Fewer bytes than the length byte says. -/
  | truncated (expected actual : Nat)
  /-- A received checksum that differs from the computed one. -/
  | checksumMismatch (expected actual : UInt8)
  /-- A payload that does not fit into one frame. -/
  | payloadTooLarge (size max : Nat)
  deriving DecidableEq

/-- The wording of a frame error. -/
def FrameError.message : FrameError → String
  | .invalidLength length =>
    s!"Malformed frame: length {length} cannot hold type, command id and checksum"
  | .unknownKind kind => "Malformed frame: unknown frame kind " ++ Text.hexByte kind
  | .truncated expected actual =>
    s!"Malformed frame: expected {expected} body bytes, got {actual}"
  | .checksumMismatch expected actual =>
    "Checksum mismatch: expected " ++ Text.hexByte expected ++ ", got " ++ Text.hexByte actual
  | .payloadTooLarge size max => s!"Payload of {size} bytes exceeds the {max}-byte frame limit"

/-- The kind that a kind byte names. -/
def FrameKind.ofByte (b : UInt8) : Except FrameError FrameKind :=
  if b = 0x00 then .ok .request
  else if b = 0x01 then .ok .response
  else .error (.unknownKind b)

/-! ## §2. Data frames -/

/-- A data frame, with the length and checksum that it carries. -/
structure DataFrame where
  length : UInt8
  kind : FrameKind
  commandId : UInt8
  payload : List UInt8
  checksum : UInt8
  deriving DecidableEq

/-- The checksum of a frame: the exclusive or of all its bytes after SOF,
    starting from 0xFF. -/
def checksum (length : UInt8) (kind : FrameKind) (commandId : UInt8) (payload : List UInt8) :
    UInt8 :=
  payload.foldl (· ^^^ ·) (0xFF ^^^ length ^^^ kind.toByte ^^^ commandId)

namespace DataFrame

/-- The frame that carries a payload, if the payload fits into one. -/
def build (kind : FrameKind) (commandId : UInt8) (payload : List UInt8) :
    Except FrameError DataFrame :=
  if payload.length > maxPayloadLength then
    .error (.payloadTooLarge payload.length maxPayloadLength)
  else
    let length := UInt8.ofNat payload.length + minFrameLength
    .ok ⟨length, kind, commandId, payload, ZWaveHost.checksum length kind commandId payload⟩

/-- The frame whose length byte is `length` and whose further bytes begin
    `body`; bytes past the length are ignored. -/
def ofBody (length : UInt8) (body : List UInt8) : Except FrameError DataFrame :=
  if length < minFrameLength then .error (.invalidLength length)
  else if body.length < length.toNat then .error (.truncated length.toNat body.length)
  else do
    let kind ← FrameKind.ofByte (body.getD 0 0)
    let payload := (body.take (length.toNat - 1)).drop 2
    return ⟨length, kind, body.getD 1 0, payload, body.getD (length.toNat - 1) 0⟩

/-- The frame at the front of a byte string. -/
def ofBytes : List UInt8 → Except FrameError DataFrame
  | sof :: length :: body =>
    if sof = FrameType.sof.toByte then ofBody length body
    else .error (.truncated 2 (body.length + 2))
  | bytes => .error (.truncated 2 bytes.length)

/-- The checksum that a frame's other fields call for. -/
def computedChecksum (f : DataFrame) : UInt8 :=
  ZWaveHost.checksum f.length f.kind f.commandId f.payload

/-- Whether a frame carries the checksum that its other fields call for. -/
def isValid (f : DataFrame) : Bool := f.checksum == f.computedChecksum

/-- Refuses a frame whose checksum is wrong. -/
def verify (f : DataFrame) : Except FrameError Unit :=
  if f.isValid then .ok () else .error (.checksumMismatch f.computedChecksum f.checksum)

/-- A frame's bytes on the line, with the computed checksum. -/
def toBytes (f : DataFrame) : List UInt8 :=
  FrameType.sof.toByte :: f.length :: f.kind.toByte :: f.commandId :: f.payload
    ++ [f.computedChecksum]

/-- How many bytes a frame takes on the line. -/
def encodedSize (f : DataFrame) : Nat := f.payload.length + 5

end DataFrame

/-! ## §3. Frames -/

/-- A frame: one of the control bytes, or a data frame. -/
inductive Frame where
  | ack
  | nak
  | can
  | data (frame : DataFrame)
  deriving DecidableEq

namespace Frame

/-- The control frame of a type; SOF begins no control frame. -/
def control? : FrameType → Option Frame
  | .sof => none
  | .ack => some .ack
  | .nak => some .nak
  | .can => some .can

/-- The way a frame begins. -/
def type : Frame → FrameType
  | .ack => .ack
  | .nak => .nak
  | .can => .can
  | .data _ => .sof

/-- A frame's bytes on the line. -/
def toBytes : Frame → List UInt8
  | .data f => f.toBytes
  | f => [f.type.toByte]

end Frame

end ZWaveHost
