/-
  ZWaveHost.Decoder — frames out of a byte stream, one byte at a time.

  Between frames a decoder is idle; after SOF it waits for the length byte,
  and then for that many bytes.  Only the length decides where a frame ends,
  so a payload may hold any byte.  Whatever a byte leads to, a frame error
  included, the decoder is idle again once a frame is over.
-/
import ZWaveHost.Frame

namespace ZWaveHost

/-- How much of a frame has arrived. -/
inductive Decoder where
  /-- Nothing: the next byte begins a frame. -/
  | idle
  /-- SOF. -/
  | started
  /-- SOF, the length byte and some of the bytes it counts. -/
  | reading (length : UInt8) (body : List UInt8)
  deriving DecidableEq, Inhabited

/-- What a byte leads to. -/
inductive DecodeEvent where
  /-- The byte belongs to a frame that is not complete. -/
  | pending
  /-- The byte completes a frame. -/
  | frame (frame : Frame)
  /-- The byte belongs to no frame. -/
  | outOfFrame (byte : UInt8)
  deriving DecidableEq

namespace Decoder

/-- Whether a frame has begun and is not complete. -/
def inFrame : Decoder → Bool
  | .idle => false
  | _ => true

/-- The bytes after the length byte that have arrived. -/
def body : Decoder → List UInt8
  | .reading _ body => body
  | _ => []

/-- Drops the frame that has begun. -/
def reset (_ : Decoder) : Decoder := .idle

/-- A byte between frames. -/
def pushIdle (byte : UInt8) : DecodeEvent × Decoder :=
  match FrameType.ofByte? byte with
  | some .sof => (.pending, .started)
  | some .ack => (.frame .ack, .idle)
  | some .nak => (.frame .nak, .idle)
  | some .can => (.frame .can, .idle)
  | none => (.outOfFrame byte, .idle)

/-- One byte. -/
def push (d : Decoder) (byte : UInt8) : Except FrameError DecodeEvent × Decoder :=
  match d with
  | .idle =>
    let (event, d) := pushIdle byte
    (.ok event, d)
  | .started =>
    if byte < minFrameLength then (.error (.invalidLength byte), .idle)
    else (.ok .pending, .reading byte [])
  | .reading length body =>
    let body := body ++ [byte]
    if body.length < length.toNat then (.ok .pending, .reading length body)
    else ((DataFrame.ofBody length body).map (.frame ∘ .data), .idle)

/-- The results of a byte string, one for each byte, and the decoder it leaves. -/
def feed (d : Decoder) : List UInt8 → List (Except FrameError DecodeEvent) × Decoder
  | [] => ([], d)
  | byte :: rest =>
    let (result, d) := d.push byte
    let (results, d) := d.feed rest
    (result :: results, d)

end Decoder

end ZWaveHost
