/-
  ZWaveHost.Link — a port with its line, decoder and counters.

  What is received goes byte by byte through the decoder; a data frame holds
  the line from its SOF to its last byte.  A frame is sent while the sender
  holds the line.

  A sender that finds the line held waits for it.  Its wait begins when it
  hands its frame over (`post`), and until it ends (`endWait`) the receiver
  goes on, may complete the frame that holds the line and deliver it.  The
  wait ends because the line is free, and the frame is sent; or because the
  sender's patience is at an end, which drops the frame that is being
  received.  Where nobody receives meanwhile, a wait ends as it begins
  (`send`).
-/
import ZWaveHost.Decoder
import ZWaveHost.Line
import ZWaveHost.Port.Basic
import ZWaveHost.Statistics
import ZWaveHost.Text.Duration

namespace ZWaveHost

/-- Who waits for the line with a frame. -/
inductive Sender where
  /-- The caller with this ticket. -/
  | caller (ticket : Nat)
  /-- Whoever starts the adapter. -/
  | starter
  deriving DecidableEq

/-- A port in use. -/
structure Link (π : Type) where
  port : π
  decoder : Decoder
  line : Line
  /-- How long a sender waits for the line, in milliseconds. -/
  lockTimeout : Nat
  received : Statistics
  sent : Statistics
  /-- The senders that wait for the line, each with its frame. -/
  waiters : List (Sender × Frame)

/-- How long a sender waits for the line unless something else is asked for. -/
def defaultTimeoutMs : UInt64 := 30000

namespace Link

variable {π : Type}

/-- A port that has not been used. -/
def new (port : π) (lockTimeout : Nat) : Link π :=
  { port, lockTimeout, decoder := .idle, line := .free, received := .zero, sent := .zero
    waiters := [] }

/-- Drops the frame that is being received, if there is one, and frees the
    line that it holds. -/
def resynchronize (l : Link π) : Link π :=
  if l.decoder.inFrame then
    { l with decoder := l.decoder.reset, line := l.line.release }
  else l

/-! ## §1. Sending -/

/-- Writes bytes and flushes them.  Stale input is dropped first; whether
    that works does not matter. -/
def writeOut [Port π] (bytes : List UInt8) (port : π) : Except IoFault Unit × π :=
  let (_, port) := Port.clearInput port
  match Port.write bytes port with
  | (.ok (), port) => Port.flush port
  | (.error fault, port) => (.error fault, port)

/-- What a sender does at the end of its wait: it sends its frame, holding the
    line for the time of the write.  If the line is still held, its patience is
    at an end, and it drops the frame that is being received. -/
def send [Port π] (l : Link π) (frame : Frame) : Except HostError Unit × Link π :=
  match l.line.acquire? with
  | none => (.error (.transport ("line busy for " ++ Text.duration l.lockTimeout)), l.resynchronize)
  | some line =>
    match writeOut frame.toBytes l.port with
    | (.ok (), port) =>
      (.ok (), { l with port := port, line := line.release, sent := l.sent.record frame.type })
    | (.error fault, port) =>
      (.error (.transport fault.message), { l with port := port, line := line.release })

/-- A sender begins to wait. -/
def enqueue (l : Link π) (sender : Sender) (frame : Frame) : Link π :=
  { l with waiters := l.waiters ++ [(sender, frame)] }

/-- A sender hands its frame over.  If the line is free it need not wait. -/
def post [Port π] (l : Link π) (sender : Sender) (frame : Frame) : Link π :=
  match l.line with
  | .free => (l.send frame).2
  | .held => l.enqueue sender frame

/-- The frame with which a sender waits for the line. -/
def waitsWith? (l : Link π) (sender : Sender) : Option Frame :=
  (l.waiters.find? (·.1 = sender)).map (·.2)

/-- A sender waits no longer. -/
def dismiss (l : Link π) (sender : Sender) : Link π :=
  { l with waiters := l.waiters.eraseP (·.1 = sender) }

/-- The end of a sender's wait; none if it does not wait. -/
def endWait? [Port π] (l : Link π) (sender : Sender) : Option (Except HostError Unit × Link π) :=
  (l.waitsWith? sender).map (l.dismiss sender).send

/-- The link once a sender's wait is over, if it waits at all. -/
def afterWait [Port π] (l : Link π) (sender : Sender) : Link π :=
  ((l.endWait? sender).map Prod.snd).getD l

theorem resynchronize_waiters (l : Link π) : l.resynchronize.waiters = l.waiters := by
  unfold resynchronize
  split <;> rfl

theorem send_waiters [Port π] (l : Link π) (frame : Frame) :
    (l.send frame).2.waiters = l.waiters := by
  unfold send
  split
  · exact l.resynchronize_waiters
  · split <;> rfl

/-- A frame that is handed over makes one more wait at most. -/
theorem length_post [Port π] (l : Link π) (sender : Sender) (frame : Frame) :
    (l.post sender frame).waiters.length ≤ l.waiters.length + 1 := by
  unfold post
  split
  · rw [send_waiters]
    exact Nat.le_succ _
  · exact Nat.le_of_eq List.length_append

theorem afterWait_of_waits [Port π] {l : Link π} {sender : Sender} {frame : Frame}
    (hwaits : l.waitsWith? sender = some frame) :
    l.afterWait sender = ((l.dismiss sender).send frame).2 := by
  unfold afterWait endWait?
  rw [hwaits]
  rfl

/-- Who does not wait has nothing to do at the line. -/
theorem afterWait_of_not_waits [Port π] {l : Link π} {sender : Sender}
    (hnone : l.waitsWith? sender = none) : l.afterWait sender = l := by
  unfold afterWait endWait?
  rw [hnone]
  rfl

/-- What holds of a link, and of it after any send that ends the wait, holds of
    it once the wait is over. -/
theorem afterWait_rec [Port π] {P : Link π → Prop} {l : Link π} {sender : Sender} (hlink : P l)
    (hsent : ∀ frame, P ((l.dismiss sender).send frame).2) : P (l.afterWait sender) := by
  cases hwaits : l.waitsWith? sender with
  | none =>
    rw [afterWait_of_not_waits hwaits]
    exact hlink
  | some frame =>
    rw [afterWait_of_waits hwaits]
    exact hsent frame

/-- A wait that ends makes one less wait. -/
theorem length_afterWait [Port π] {l : Link π} {sender : Sender}
    (hwaits : (l.waitsWith? sender).isSome = true) :
    (l.afterWait sender).waiters.length + 1 = l.waiters.length := by
  obtain ⟨frame, hwaits⟩ := Option.isSome_iff_exists.mp hwaits
  obtain ⟨waiter, hfound, _⟩ := Option.map_eq_some_iff.mp hwaits
  have hmem := List.mem_of_find?_eq_some hfound
  have hpos := List.length_pos_of_mem hmem
  rw [afterWait_of_waits hwaits, send_waiters]
  show (l.waiters.eraseP (·.1 = sender)).length + 1 = _
  rw [List.length_eraseP_of_mem hmem (List.find?_some hfound)]
  omega

theorem length_afterWait_le [Port π] (l : Link π) (sender : Sender) :
    (l.afterWait sender).waiters.length ≤ l.waiters.length := by
  refine afterWait_rec (P := fun l' => l'.waiters.length ≤ l.waiters.length) (Nat.le_refl _) ?_
  intro frame
  rw [send_waiters]
  exact List.length_eraseP_le

/-! ## §2. Opening and closing -/

/-- Opens the port and sends a NAK, which ends whatever the module may think
    it is receiving.  Nobody receives while the NAK waits for the line. -/
def openPort [Port π] (l : Link π) (timeout : Nat) : Except HostError Bool × Link π :=
  match Port.openWithin timeout l.port with
  | (.error e, port) => (.error e, { l with port := port })
  | (.ok false, port) => (.ok false, { l with port := port })
  | (.ok true, port) =>
    match ({ l with port := port } : Link π).send .nak with
    | (.ok (), l) => (.ok true, l)
    | (.error e, l) => (.error e, l)

/-- Closes the port and drops a frame that is being received. -/
def closePort [Port π] (l : Link π) : Except HostError Bool × Link π :=
  match Port.close l.port with
  | (.error e, port) => (.error e, { l with port := port })
  | (.ok wasOpen, port) => (.ok wasOpen, ({ l with port := port } : Link π).resynchronize)

/-! ## §3. Receiving -/

/-- What a received byte asks for. -/
inductive Reception where
  | nothing
  | frame (frame : Frame)
  | malformed (error : FrameError)
  deriving DecidableEq

/-- The line after a byte: a data frame takes it when it begins and gives it
    back when it is over.  Nobody holds the line when a frame begins, so the
    receiver need not wait. -/
def lineAfter (line : Line) (before after : Decoder) : Line :=
  if !before.inFrame && after.inFrame then line.acquire?.getD line
  else if before.inFrame && !after.inFrame then line.release
  else line

/-- Takes in one byte. -/
def receiveByte (l : Link π) (byte : UInt8) : Reception × Link π :=
  let (result, decoder) := l.decoder.push byte
  let l := { l with decoder := decoder, line := lineAfter l.line l.decoder decoder }
  match result with
  | .ok .pending => (.nothing, l)
  | .ok (.outOfFrame _) => (.nothing, { l with received := l.received.recordOutOfFrame })
  | .ok (.frame frame) => (.frame frame, { l with received := l.received.record frame.type })
  | .error e => (.malformed e, l)

/-- Takes in a chunk of bytes.  Each complete frame goes to `deliver`, which
    may use the link.  A malformed frame is answered with a NAK, and the rest
    of the chunk is dropped. -/
def receive [Port π] {σ : Type} (deliver : Frame → Link π × σ → Link π × σ) :
    List UInt8 → Link π × σ → Link π × σ
  | [], s => s
  | byte :: rest, (l, s) =>
    match l.receiveByte byte with
    | (.nothing, l) => receive deliver rest (l, s)
    | (.frame frame, l) => receive deliver rest (deliver frame (l, s))
    | (.malformed _, l) => ((l.send .nak).2, s)

end Link

end ZWaveHost
