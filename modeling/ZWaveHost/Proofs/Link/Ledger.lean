/-
  ZWaveHost.Proofs.Link.Ledger — the counters of a link, and its bytes.

  Whatever is done with a link, what it counts as received are the frames
  that it delivers and the bytes that belong to no frame, and every byte that
  comes in ends up in a lot, or in the frame that has begun (`Booked`).  One
  byte and one call are booked; from them, by induction, chunks and runs.

  Main statement: after any calls on a new link the counters are exact, and
  so is the sum of all the bytes (`counters_exact`).
-/
import ZWaveHost.Proofs.Link.Lots
import ZWaveHost.Proofs.Port.Audit

namespace ZWaveHost

/-! ## §1. Counters -/

/-- Whether a byte completes a frame of a type. -/
def completes (type : FrameType) (result : Except FrameError DecodeEvent) : Bool :=
  match completed? result with
  | some frame => frame.type = type
  | none => false

theorem countP_completes (type : FrameType) (results : List (Except FrameError DecodeEvent)) :
    results.countP (completes type) = (results.filterMap completed?).countP (·.type = type) := by
  induction results with
  | nil => rfl
  | cons result rest ih =>
    unfold completes at ih ⊢
    rw [List.countP_cons, ih]
    cases hframe : completed? result with
    | none =>
      rw [List.filterMap_cons_none hframe]
      rfl
    | some frame => rw [List.filterMap_cons_some hframe, List.countP_cons]

namespace Statistics

/-- How many frames of a type have been counted. -/
def counter (counters : Statistics) : FrameType → UInt64
  | .sof => counters.sof
  | .ack => counters.ack
  | .nak => counters.nak
  | .can => counters.can

theorem counter_record (counters : Statistics) (type type' : FrameType) :
    (counters.record type).counter type'
      = if type = type' then counters.counter type' + 1 else counters.counter type' := by
  cases type <;> cases type' <;> rfl

/-- What is counted below 2^64 is counted exactly. -/
theorem toNat_foldl_count {α : Type} (read : Statistics → UInt64) {counts : α → Bool}
    {step : Statistics → α → Statistics}
    (hstep : ∀ counters a, read (step counters a)
      = if counts a then read counters + 1 else read counters)
    {counted : List α} (hzero : read .zero = 0) (hfew : counted.countP counts < UInt64.size) :
    (read (counted.foldl step .zero)).toNat = counted.countP counts := by
  rw [foldl_count read hstep, hzero, UInt64.zero_add]
  exact UInt64.toNat_ofNat_of_lt' hfew

/-- Of what the decoder answers, the counter of a type counts the frames of
    that type. -/
theorem counter_book (type : FrameType) (counters : Statistics)
    (result : Except FrameError DecodeEvent) :
    (counters.book result).counter type
      = if completes type result then counters.counter type + 1 else counters.counter type := by
  cases result with
  | error e => rfl
  | ok event =>
    cases event with
    | pending => rfl
    | outOfFrame noise => cases type <;> rfl
    | frame frame =>
      show (counters.record frame.type).counter type = _
      rw [counter_record]
      simp only [completes, completed?, decide_eq_true_eq]

theorem counter_zero (type : FrameType) : zero.counter type = 0 := by
  cases type <;> rfl

end Statistics

/-! ## §2. Bytes and chunks -/

variable {π σ : Type}

/-- What has been done with a link is booked: its lots are the frames that it has
    delivered and the bytes that it has counted, and no byte is missing. -/
structure Booked (lots : List Lot) (bytes : List UInt8) (seen : List (Sight π))
    (before after : Link π) : Prop where
  delivered : seen.filterMap Sight.delivered? = (Lot.results lots).filterMap completed?
  received : after.received = (Lot.results lots).foldl Statistics.book before.received
  divided : Divided lots bytes before.decoder after.decoder

theorem Booked.append {lots more : List Lot} {bytes later : List UInt8}
    {seen seenLater : List (Sight π)} {l l' l'' : Link π} (h : Booked lots bytes seen l l')
    (hmore : Booked more later seenLater l' l'') :
    Booked (lots ++ more) (bytes ++ later) (seen ++ seenLater) l l'' where
  delivered := by
    rw [List.filterMap_append, h.delivered, hmore.delivered, Lot.results_append,
      List.filterMap_append]
  received := by rw [hmore.received, h.received, Lot.results_append, List.foldl_append]
  divided := h.divided.append hmore.divided

namespace Link

variable [Port π]

/-- What a byte leads to counts nothing more as received. -/
theorem handle_received (callback : Frame → σ → Callback σ)
    (result : Except FrameError DecodeEvent) (s : Link π × σ) :
    (handle (deliverTo callback) result s).1.received = s.1.received := by
  cases result with
  | error e => exact s.1.send_received .nak
  | ok event =>
    cases event with
    | pending => rfl
    | outOfFrame noise => rfl
    | frame frame => exact (callback frame s.2).run_received s.1

/-- **A byte is booked**: with the segment that it ends, if it ends one. -/
theorem Balanced.booked_byte {l : Link π} (hl : l.Balanced)
    (hd : ∃ u : Unfinished, u.decoder = l.decoder) (callback : Frame → σ → Callback σ)
    (byte : UInt8) (s : σ) :
    Booked (l.decoder.lot? byte).toList [byte] (Link.watchByte callback byte (l, s)).1 l
      (Link.watchByte callback byte (l, s)).2.1 where
  delivered := by
    rw [(hl.answered callback byte s).delivered]
    by_cases hpending : (l.decoder.push byte).1 = .ok .pending
    · rw [Decoder.lot?_of_pending hpending, hpending]
      rfl
    · rw [Decoder.lot?_of_ended hpending]
      rfl
  received := by
    rw [watchByte_snd, handle_received, tookIn_received]
    by_cases hpending : (l.decoder.push byte).1 = .ok .pending
    · rw [Decoder.lot?_of_pending hpending, hpending]
      rfl
    · rw [Decoder.lot?_of_ended hpending]
      rfl
  divided := by
    rw [(hl.watchByte callback byte s).2.2]
    exact .byte hd byte

/-- **A chunk is booked**: the segments that end in it, and what stands behind
    a frame error. -/
theorem Balanced.booked_chunk {l : Link π} (hl : l.Balanced)
    (hd : ∃ u : Unfinished, u.decoder = l.decoder) (callback : Frame → σ → Callback σ)
    (bytes : List UInt8) (s : σ) :
    Booked (l.decoder.lots bytes) bytes (Link.watchReceive callback bytes (l, s)).1 l
      (Link.watchReceive callback bytes (l, s)).2.1 := by
  induction bytes generalizing l s with
  | nil => exact ⟨rfl, rfl, .nil hd⟩
  | cons byte rest ih =>
    have hbyte := hl.booked_byte hd callback byte s
    obtain ⟨_, hbalanced, hdecoder⟩ := hl.watchByte callback byte s
    unfold Link.watchReceive
    dsimp only
    cases hresult : (l.decoder.push byte).1 with
    | error e =>
      -- the decoder is between frames, so nothing of the rest begins one
      have hidle := hdecoder.trans (Decoder.push_idle_of_error hresult)
      have hrest : Booked [.discarded rest] rest ([] : List (Sight π))
          (Link.watchByte callback byte (l, s)).2.1 (Link.watchByte callback byte (l, s)).2.1 := by
        refine ⟨rfl, rfl, ?_⟩
        rw [hidle]
        exact .discarded rest
      rw [Decoder.lots_cons_of_error hresult]
      have hboth := hbyte.append hrest
      rw [List.append_nil] at hboth
      exact hboth
    | ok event =>
      rw [Decoder.lots_cons_of_ok hresult, ← hdecoder]
      exact hbyte.append (ih hbalanced hbyte.divided.rest _)

end Link

/-! ## §3. Calls -/

namespace Call

variable [Port π]

/-- The bytes that come in with a call. -/
def bytes : Call σ → List UInt8
  | .receive bytes _ => bytes
  | _ => []

/-- What becomes of the bytes that come in with a call, or of the frame that has
    begun before it. -/
def lots (c : Call σ) (s : Link π × σ) : List Lot :=
  match c with
  | .receive bytes _ => s.1.decoder.lots bytes
  | c => s.1.decoder.lost (c.perform s).1.decoder

/-- What becomes of all the bytes that come in with some calls. -/
def lotsAll : List (Call σ) → Link π × σ → List Lot
  | [], _ => []
  | c :: rest, s => c.lots s ++ lotsAll rest (c.perform s)

omit [Port π] in
/-- A call that brings no bytes is booked with the frame that it drops, if it
    drops one. -/
theorem booked_lost {seen : List (Sight π)} {l l' : Link π}
    (hd : ∃ u : Unfinished, u.decoder = l.decoder)
    (hseen : seen.filterMap Sight.delivered? = []) (hreceived : l'.received = l.received)
    (hdecoder : l'.decoder = l.decoder ∨ l'.decoder = .idle) :
    Booked (l.decoder.lost l'.decoder) [] seen l l' := by
  have hnothing : Lot.results (l.decoder.lost l'.decoder) = [] := by
    unfold Decoder.lost
    split <;> rfl
  refine ⟨?_, ?_, .lost hd hdecoder⟩
  · rw [hseen, hnothing]
    rfl
  · rw [hreceived, hnothing]
    rfl

/-- **Every call is booked.** -/
theorem booked (c : Call σ) {l : Link π} (hl : l.Balanced)
    (hd : ∃ u : Unfinished, u.decoder = l.decoder) (s : σ) :
    Booked (c.lots (l, s)) c.bytes (c.watch (l, s)).1 l (c.perform (l, s)).1 := by
  cases c with
  | receive bytes callback =>
    have hchunk := hl.booked_chunk hd callback bytes s
    rw [Link.watchReceive_snd] at hchunk
    exact hchunk
  | send frame => exact booked_lost hd rfl (l.send_received frame) (l.send_decoder frame)
  | resynchronize =>
    exact booked_lost hd rfl l.resynchronize_received (.inr l.resynchronize_decoder)
  | closePort => exact booked_lost hd rfl l.closePort_received l.closePort_decoder
  | openPort timeout =>
    have hseen : ((openPort timeout : Call σ).watch (l, s)).1.filterMap Sight.delivered? = [] := by
      unfold watch
      dsimp only
      split <;> rfl
    exact booked_lost hd hseen (l.openPort_received timeout) (l.openPort_decoder timeout)

theorem booked_all (calls : List (Call σ)) {l : Link π} (hl : l.Balanced)
    (hd : ∃ u : Unfinished, u.decoder = l.decoder) (s : σ) :
    Booked (lotsAll calls (l, s)) (calls.flatMap bytes) (watchAll calls (l, s)).1 l
      (performAll calls (l, s)).1 := by
  -- every call begins in balance and with an unfinished frame, as the one
  -- before it has left it
  induction calls generalizing l s with
  | nil => exact ⟨rfl, rfl, .nil hd⟩
  | cons c rest ih =>
    have hcall := c.booked hl hd s
    have hbalanced := (c.watch_sound hl s).2
    have hrest := ih hbalanced hcall.divided.rest (c.perform (l, s)).2
    have hwatch : watchAll (c :: rest) (l, s)
        = ((c.watch (l, s)).1 ++ (watchAll rest (c.perform (l, s))).1,
          (watchAll rest (c.perform (l, s))).2) := by
      rw [← c.watch_snd]
      rfl
    rw [hwatch]
    exact hcall.append hrest

end Call

/-! ## §4. Runs -/

/-- **What a new link counts as received** is what it has delivered, and the
    bytes that belong to no frame. -/
theorem Booked.received_exact {lots : List Lot} {bytes : List UInt8} {seen : List (Sight π)}
    {port : π} {lockTimeout : Nat} {l : Link π}
    (h : Booked lots bytes seen (Link.new port lockTimeout) l)
    (hfew : (seen.filterMap Sight.delivered?).length + (Lot.results lots).countP isNoise
      < UInt64.size) :
    (∀ type, (l.received.counter type).toNat
        = (seen.filterMap Sight.delivered?).countP (·.type = type))
      ∧ l.received.outOfFrame.toNat = (Lot.results lots).countP isNoise := by
  have hreceived : l.received = (Lot.results lots).foldl Statistics.book .zero := h.received
  rw [hreceived]
  constructor
  · intro type
    -- no type is counted more often than there are frames
    have hmost : (seen.filterMap Sight.delivered?).countP (·.type = type)
        ≤ (seen.filterMap Sight.delivered?).length := List.countP_le_length
    have hcount : (seen.filterMap Sight.delivered?).countP (·.type = type)
        = (Lot.results lots).countP (completes type) := by
      rw [countP_completes, h.delivered]
    rw [hcount] at hmost ⊢
    exact Statistics.toNat_foldl_count (·.counter type) (Statistics.counter_book type)
      (Statistics.counter_zero type) (by omega)
  · exact Statistics.toNat_foldl_count (·.outOfFrame) Statistics.outOfFrame_book rfl (by omega)

/-- **What a link counts as sent** are the frames that have gone out. -/
theorem Link.Audits.sent_exact {a : Link (Audited π)} {l : Link π} (h : a.Audits l)
    (hfew : a.port.completed.length < UInt64.size) :
    ∃ frames : List Frame, a.port.completed = frames.map Frame.toBytes
      ∧ ∀ type, (l.sent.counter type).toNat = frames.countP (·.type = type) := by
  obtain ⟨rfl, frames, hcompleted, hsent⟩ := h
  refine ⟨frames, hcompleted, ?_⟩
  intro type
  have hmost : frames.countP (·.type = type) ≤ frames.length := List.countP_le_length
  rw [hcompleted, List.length_map] at hfew
  show (a.sent.counter type).toNat = _
  rw [hsent]
  refine Statistics.toNat_foldl_count (·.counter type) ?_ (Statistics.counter_zero type)
    (by omega)
  intro counters frame
  simp only [Statistics.counter_record, decide_eq_true_eq]

namespace Call

variable [Port π]

open Link

/-- **The counters are exact**, after any calls on a new link, whatever its port
    answers, as long as there are fewer than 2^64 of what they count.

    What is counted as received are the frames that have been delivered and
    the bytes that belong to no frame.  What is counted as sent are the frames
    that have gone out, which an audit of the port tells: those whose write
    and flush have both succeeded, whoever has sent them.  Who fails to send
    counts nothing.

    Every byte that has come in is in its place in the row of lots, or belongs
    to the frame that has begun.  So the bytes that have come in are those of
    the frames and the noise that are counted, of the malformed frames, of
    what stood behind a frame error, and of frames that were dropped or have
    begun. -/
theorem counters_exact (port : π) (lockTimeout : Nat) (calls : List (Call σ)) (s : σ) :
    let start := (Link.new port lockTimeout, s)
    let link := (performAll calls start).1
    let audit := (performAll calls (Link.new (Audited.new port) lockTimeout, s)).1
    let delivered := (watchAll calls start).1.filterMap Sight.delivered?
    let lots := lotsAll calls start
    let noise := (Lot.results lots).countP isNoise
    delivered.length + noise + audit.port.completed.length < UInt64.size →
      (watchAll calls start).2 = performAll calls start
      ∧ audit.unaudited = link
      ∧ (∀ type, (link.received.counter type).toNat = delivered.countP (·.type = type))
      ∧ link.received.outOfFrame.toNat = noise
      ∧ (∃ frames : List Frame, audit.port.completed = frames.map Frame.toBytes
        ∧ ∀ type, (link.sent.counter type).toNat = frames.countP (·.type = type))
      ∧ (∀ (l : Link π) frame error, (l.send frame).1 = .error error →
        (l.send frame).2.sent = l.sent ∧ (l.send frame).2.received = l.received)
      ∧ (∀ (l : Link π) timeout, (l.openPort timeout).1 ≠ .ok true →
        (l.openPort timeout).2.sent = l.sent ∧ (l.openPort timeout).2.received = l.received)
      ∧ delivered = (Lot.results lots).filterMap completed?
      ∧ (∀ lot ∈ lots, lot.Sound)
      ∧ calls.flatMap bytes = lots.flatMap Lot.bytes ++ link.decoder.begun
      ∧ (calls.flatMap bytes).length
        = link.received.ack.toNat + link.received.nak.toNat + link.received.can.toNat
          + link.received.outOfFrame.toNat + Frame.dataSize delivered
          + (lots.flatMap Lot.malformedBytes).length + (lots.flatMap Lot.discardedBytes).length
          + (lots.flatMap Lot.droppedBytes).length + link.decoder.begun.length := by
  intro start link audit delivered lots noise hfew
  have hbooked : Booked lots (calls.flatMap bytes) (watchAll calls start).1 start.1 link :=
    booked_all calls (idle_new port lockTimeout).balanced ⟨.nothing, rfl⟩ s
  have haudits : audit.Audits link :=
    (performAll_audits calls ⟨audits_new port lockTimeout, rfl⟩).link
  obtain ⟨hcounter, hnoise⟩ :=
    hbooked.received_exact (Nat.lt_of_le_of_lt (Nat.le_add_right _ _) hfew)
  have hsent := haudits.sent_exact (Nat.lt_of_le_of_lt (Nat.le_add_left _ _) hfew)
  refine ⟨watchAll_snd calls start, haudits.same, hcounter, hnoise, hsent, ?_, ?_,
    hbooked.delivered, hbooked.divided.sound, hbooked.divided.bytes, ?_⟩
  · intro l frame error hfails
    refine ⟨?_, l.send_received frame⟩
    rw [send_sent, hfails]
    rfl
  · intro l timeout hfails
    exact ⟨openPort_sent hfails, l.openPort_received timeout⟩
  · have hdelivered : delivered = (Lot.results lots).filterMap completed? := hbooked.delivered
    have hack : link.received.ack.toNat = delivered.countP (·.type = .ack) := hcounter .ack
    have hnak : link.received.nak.toNat = delivered.countP (·.type = .nak) := hcounter .nak
    have hcan : link.received.can.toNat = delivered.countP (·.type = .can) := hcounter .can
    have hbytes : (calls.flatMap bytes).length
        = (lots.flatMap Lot.bytes).length + link.decoder.begun.length := by
      rw [← List.length_append, ← hbooked.divided.bytes]
      rfl
    rw [hbytes, Lot.length_flatMap_bytes hbooked.divided.sound, Lot.total, ← hdelivered, hack, hnak,
      hcan, hnoise]

/-- Over a port that opens come an ACK, a byte of noise, a malformed frame with
    a byte behind it, half a frame that a sender drops, a CAN, a data frame
    that is acknowledged, and SOF.  Two NAKs and an ACK have gone out. -/
theorem counters_exact_of_each_lot :
    let calls := [openPort 1000, receive [0x06, 0x55, 0x01, 0x02, 0x77] acknowledge,
      receive [0x01, 0x05] acknowledge, send .can,
      receive [0x18, 0x01, 0x03, 0x00, 0x15, 0xE9, 0x01] acknowledge]
    let start := (Link.new ({} : ScriptedPort) 30000, 0)
    let link := (performAll calls start).1
    let audit := (performAll calls (Link.new (Audited.new ({} : ScriptedPort)) 30000, 0)).1
    audit.port.completed = [Frame.nak.toBytes, Frame.nak.toBytes, Frame.ack.toBytes]
      ∧ audit.unaudited = link
      ∧ link.received.outOfFrame.toNat = 1
      ∧ (calls.flatMap bytes).length = 1 + 0 + 1 + 1 + 5 + 2 + 1 + 2 + 1 := by
  intro calls start link audit
  obtain ⟨_, hsame, _, hnoise, _, _, _, _, _, _, htotal⟩ :=
    counters_exact ({} : ScriptedPort) 30000 calls 0 (by decide)
  refine ⟨by decide, hsame, hnoise.trans (by decide), htotal.trans ?_⟩
  decide

end Call

end ZWaveHost
