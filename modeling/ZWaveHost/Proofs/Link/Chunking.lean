/-
  ZWaveHost.Proofs.Link.Chunking — where a stream is cut does not matter.

  A chunk counts up to its first frame error, so taking in some chunks is
  taking in the bytes that count, one by one (`Call.watchAll_receive`).  What
  comes of them is read off the decoder's answers.

  Main statement: a stream without a frame error leads to the same however it
  is cut; with frame errors, the bytes that count are answered as the decoder
  answers them, and each error is refused once (`receive_up_to_errors`).
-/
import ZWaveHost.Port.Scripted
import ZWaveHost.Proofs.Link.Watch
import ZWaveHost.Proofs.Port.Journal

namespace ZWaveHost

variable {π σ : Type}

/-! ## §1. The bytes that count -/

namespace Decoder

/-- **Without a frame error nothing is dropped**, whatever the chunks are. -/
theorem keptOf_eq_flatten {d : Decoder} (chunks : List (List UInt8))
    (hclean : ∀ r ∈ (d.feed chunks.flatten).1, r.isOk = true) :
    d.keptOf chunks = chunks.flatten := by
  -- by induction on the chunks; the decoder goes on from one to the next
  induction chunks generalizing d with
  | nil => rfl
  | cons chunk rest ih =>
    rw [List.flatten_cons, feed_append] at hclean
    have hchunk : d.kept chunk = chunk :=
      kept_eq_self fun r hr => hclean r (List.mem_append_left _ hr)
    rw [keptOf, hchunk, ih fun r hr => hclean r (List.mem_append_right _ hr), List.flatten_cons]

/-- Of chunks of one byte each, every byte counts. -/
theorem keptOf_singletons (d : Decoder) (bytes : List UInt8) :
    d.keptOf (bytes.map fun byte => [byte]) = bytes := by
  induction bytes generalizing d with
  | nil => rfl
  | cons byte rest ih =>
    have hkept : d.kept [byte] = [byte] := by
      cases hresult : (d.push byte).1 with
      | error e => exact kept_cons_of_error hresult []
      | ok event => exact kept_cons_of_ok hresult []
    rw [List.map_cons, keptOf, hkept, ih]
    rfl

end Decoder

variable [Port π]

namespace Link

/-- Bytes are taken in one by one, whatever comes of them, and watched. -/
def watchBytes (callback : Frame → σ → Callback σ) :
    List UInt8 → Link π × σ → List (Sight π) × Link π × σ
  | [], s => ([], s)
  | byte :: rest, s =>
    let (seen, t) := watchByte callback byte s
    let (more, u) := watchBytes callback rest t
    (seen ++ more, u)

variable {callback : Frame → σ → Callback σ}

theorem watchBytes_append (before after : List UInt8) (s : Link π × σ) :
    watchBytes callback (before ++ after) s
      = ((watchBytes callback before s).1
            ++ (watchBytes callback after (watchBytes callback before s).2).1,
          (watchBytes callback after (watchBytes callback before s).2).2) := by
  induction before generalizing s with
  | nil => rfl
  | cons byte rest ih => simp only [List.cons_append, watchBytes, ih, List.append_assoc]

/-- Bytes leave the link in balance and the decoder where it is after them. -/
theorem Balanced.watchBytes {l : Link π} (hl : l.Balanced) (callback : Frame → σ → Callback σ)
    (bytes : List UInt8) (s : σ) :
    (watchBytes callback bytes (l, s)).2.1.Balanced
      ∧ (Link.watchBytes callback bytes (l, s)).2.1.decoder = (l.decoder.feed bytes).2 := by
  induction bytes generalizing l s with
  | nil => exact ⟨hl, rfl⟩
  | cons byte rest ih =>
    obtain ⟨_, hbalanced, hdecoder⟩ := hl.watchByte callback byte s
    have hrest := ih hbalanced (Link.watchByte callback byte (l, s)).2.2
    rw [hdecoder] at hrest
    exact hrest

/-- **A chunk comes to its bytes that count.** -/
theorem watchReceive_eq {l : Link π} (hl : l.Balanced) (bytes : List UInt8) (s : σ) :
    watchReceive callback bytes (l, s) = watchBytes callback (l.decoder.kept bytes) (l, s) := by
  induction bytes generalizing l s with
  | nil => rfl
  | cons byte rest ih =>
    obtain ⟨_, hbalanced, hdecoder⟩ := hl.watchByte callback byte s
    have hrest := ih hbalanced (watchByte callback byte (l, s)).2.2
    unfold watchReceive
    dsimp only
    cases hresult : (l.decoder.push byte).1 with
    | error e =>
      -- the byte of the error still counts, and nothing behind it
      rw [Decoder.kept_cons_of_error hresult]
      simp only [watchBytes, List.append_nil]
    | ok event =>
      rw [Decoder.kept_cons_of_ok hresult]
      simp only [watchBytes]
      rw [← hdecoder, ← hrest]

end Link

/-- **Some chunks come to their bytes that count.** -/
theorem Call.watchAll_receive (callback : Frame → σ → Callback σ) (chunks : List (List UInt8))
    {l : Link π} (hl : l.Balanced) (s : σ) :
    watchAll (chunks.map (.receive · callback)) (l, s)
      = Link.watchBytes callback (l.decoder.keptOf chunks) (l, s) := by
  -- by induction on the chunks; what counts in a chunk depends on where the
  -- decoder is, which is where the bytes that counted so far have left it
  induction chunks generalizing l s with
  | nil => rfl
  | cons chunk rest ih =>
    obtain ⟨hbalanced, hdecoder⟩ :=
      hl.watchBytes callback (l.decoder.kept chunk) s
    have hrest := ih hbalanced (Link.watchBytes callback (l.decoder.kept chunk) (l, s)).2.2
    rw [hdecoder] at hrest
    rw [Decoder.keptOf, Link.watchBytes_append, ← hrest, ← Link.watchReceive_eq hl]
    rfl

/-! ## §2. What comes of an answer -/

/-- The frame that a byte completes. -/
def completed? : Except FrameError DecodeEvent → Option Frame
  | .ok (.frame frame) => some frame
  | _ => none

/-- The frame error that a byte leads to. -/
def fault? : Except FrameError DecodeEvent → Option FrameError
  | .error e => some e
  | .ok _ => none

/-- Whether a byte belongs to no frame. -/
def isNoise : Except FrameError DecodeEvent → Bool
  | .ok (.outOfFrame _) => true
  | _ => false

namespace Statistics

/-- Counts what the decoder answers: a frame, or a byte that belongs to none. -/
def book (counters : Statistics) : Except FrameError DecodeEvent → Statistics
  | .ok (.frame frame) => counters.record frame.type
  | .ok (.outOfFrame _) => counters.recordOutOfFrame
  | _ => counters

theorem outOfFrame_book (counters : Statistics) (result : Except FrameError DecodeEvent) :
    (counters.book result).outOfFrame
      = if isNoise result then counters.outOfFrame + 1 else counters.outOfFrame := by
  cases result with
  | error e => rfl
  | ok event =>
    cases event with
    | pending => rfl
    | outOfFrame noise => rfl
    | frame frame => cases frame <;> rfl

/-- **A counter counts** what makes it go up by one, modulo 2^64. -/
theorem foldl_count {α : Type} (read : Statistics → UInt64) {counts : α → Bool}
    {step : Statistics → α → Statistics}
    (hstep : ∀ counters a, read (step counters a)
      = if counts a then read counters + 1 else read counters)
    (counted : List α) (counters : Statistics) :
    read (counted.foldl step counters) = read counters + UInt64.ofNat (counted.countP counts) := by
  induction counted generalizing counters with
  | nil => exact (UInt64.add_zero _).symm
  | cons a rest ih =>
    rw [List.foldl_cons, ih, hstep, List.countP_cons]
    by_cases ha : counts a = true
    · rw [if_pos ha, if_pos ha, Nat.add_comm, UInt64.ofNat_add, UInt64.add_assoc]
      rfl
    · rw [if_neg ha, if_neg ha, Nat.add_zero]

end Statistics

namespace Sight

/-- The frame that is delivered. -/
def delivered? : Sight π → Option Frame
  | .delivery frame _ => some frame
  | _ => none

/-- The frame error that is answered. -/
def refused? : Sight π → Option FrameError
  | .refusal e _ => some e
  | _ => none

/-- The bytes that somebody tries to write. -/
def tried? : Sight π → Option (List UInt8)
  | .sending frame _ => some frame.toBytes
  | .refusal _ _ => some Frame.nak.toBytes
  | _ => none

end Sight

/-- What has been seen of a link is what the decoder's answers call for: the
    frames that were completed have been delivered, each frame error has been
    refused once, noise has been counted, and nothing was tried on the port
    but what was seen. -/
structure Answered (answers : List (Except FrameError DecodeEvent)) (seen : List (Sight π))
    (before after : Link π) : Prop where
  delivered : seen.filterMap Sight.delivered? = answers.filterMap completed?
  refused : seen.filterMap Sight.refused? = answers.filterMap fault?
  noise : after.received.outOfFrame
    = before.received.outOfFrame + UInt64.ofNat (answers.countP isNoise)
  tried : ∀ j : Journal π,
    j.tried after.port = j.tried before.port ++ seen.filterMap Sight.tried?

namespace Answered

theorem nil (l : Link π) : Answered [] [] l l where
  delivered := rfl
  refused := rfl
  noise := (UInt64.add_zero _).symm
  tried _ := (List.append_nil _).symm

theorem append {answers more : List (Except FrameError DecodeEvent)} {seen later : List (Sight π)}
    {l l' l'' : Link π} (h : Answered answers seen l l') (hmore : Answered more later l' l'') :
    Answered (answers ++ more) (seen ++ later) l l'' where
  delivered := by rw [List.filterMap_append, List.filterMap_append, h.delivered, hmore.delivered]
  refused := by rw [List.filterMap_append, List.filterMap_append, h.refused, hmore.refused]
  noise := by
    rw [hmore.noise, h.noise, List.countP_append, UInt64.ofNat_add, UInt64.add_assoc]
  tried j := by rw [hmore.tried, h.tried, List.filterMap_append, List.append_assoc]

end Answered

namespace Callback

/-- A callback only sends. -/
theorem watch_sending (c : Callback σ) (l : Link π) :
    ∀ sight ∈ (c.watch l).1, ∃ frame l', sight = .sending frame l' := by
  induction c generalizing l with
  | done s =>
    intro sight hmem
    cases hmem
  | send frame next ih =>
    intro sight hmem
    rcases List.mem_cons.mp hmem with rfl | hlater
    · exact ⟨_, _, rfl⟩
    · exact ih _ _ sight hlater

theorem run_received (c : Callback σ) (l : Link π) : (c.run l).1.received = l.received := by
  induction c generalizing l with
  | done s => rfl
  | send frame next ih => exact (ih _ _).trans (l.send_received frame)

/-- What a callback sends is tried on the port, as long as the line is free. -/
theorem watch_tried (j : Journal π) (c : Callback σ) {l : Link π} (hl : l.Idle) :
    j.tried (c.run l).1.port = j.tried l.port ++ (c.watch l).1.filterMap Sight.tried? := by
  induction c generalizing l with
  | done s => exact (List.append_nil _).symm
  | send frame next ih =>
    have hsent := hl.send_tried j frame
    have hrest := ih (l.send frame).1 (hl.send_idle frame)
    rw [hsent, List.append_assoc] at hrest
    exact hrest

/-- A callback delivers nothing and refuses nothing. -/
theorem watch_neither (c : Callback σ) (l : Link π) :
    (c.watch l).1.filterMap Sight.delivered? = []
      ∧ (c.watch l).1.filterMap Sight.refused? = [] := by
  constructor <;>
  · rw [List.filterMap_eq_nil_iff]
    intro sight hmem
    obtain ⟨frame, l', rfl⟩ := c.watch_sending l sight hmem
    rfl

end Callback

namespace Link

variable {callback : Frame → σ → Callback σ}

omit [Port π] in
/-- A byte that is taken in is counted by what the decoder answers to it. -/
theorem tookIn_received (l : Link π) (byte : UInt8) :
    (l.tookIn byte).received = l.received.book (l.decoder.push byte).1 := by
  unfold tookIn receiveByte
  dsimp only
  cases (l.decoder.push byte).1 with
  | error e => rfl
  | ok event => cases event <;> rfl

omit [Port π] in
/-- Of the bytes that are taken in, those that belong to no frame are counted. -/
theorem tookIn_outOfFrame (l : Link π) (byte : UInt8) :
    (l.tookIn byte).received.outOfFrame
      = l.received.outOfFrame + UInt64.ofNat ([(l.decoder.push byte).1].countP isNoise) := by
  rw [tookIn_received]
  exact Statistics.foldl_count (·.outOfFrame) Statistics.outOfFrame_book [_] l.received

/-- **What is seen of a byte is what the decoder's answer to it calls for.** -/
theorem Balanced.answered {l : Link π} (hl : l.Balanced) (callback : Frame → σ → Callback σ)
    (byte : UInt8) (s : σ) :
    Answered [(l.decoder.push byte).1] (Link.watchByte callback byte (l, s)).1 l
      (Link.watchByte callback byte (l, s)).2.1 := by
  have hnoise := l.tookIn_outOfFrame byte
  have hport := l.tookIn_port byte
  -- taking the line is no answer
  have hquiet : ∀ {β : Type} (f : Sight π → Option β), (∀ l', f (.taking l') = none) →
      (if l.begins byte then [Sight.taking l] else []).filterMap f = [] := by
    intro β f hf
    split
    · rw [List.filterMap_cons_none (hf l)]
      rfl
    · rfl
  have hdelivered := hquiet Sight.delivered? fun _ => rfl
  have hrefused := hquiet Sight.refused? fun _ => rfl
  have htried := hquiet Sight.tried? fun _ => rfl
  unfold Link.watchByte
  dsimp only
  cases hresult : (l.decoder.push byte).1 with
  | error e =>
    have hidle := hl.tookIn_idle_of_error hresult
    rw [hresult] at hnoise
    exact {
      delivered := by rw [List.filterMap_append, hdelivered]; rfl
      refused := by rw [List.filterMap_append, hrefused]; rfl
      noise := by rw [send_received, hnoise]
      tried := fun j => by
        rw [hidle.send_tried j, hport, List.filterMap_append, htried]
        rfl }
  | ok event =>
    rw [hresult] at hnoise
    cases event with
    | pending =>
      exact {
        delivered := hdelivered
        refused := hrefused
        noise := hnoise
        tried := fun j => by rw [htried, hport, List.append_nil] }
    | outOfFrame noise =>
      exact {
        delivered := hdelivered
        refused := hrefused
        noise := hnoise
        tried := fun j => by rw [htried, hport, List.append_nil] }
    | frame frame =>
      -- the callback finds the link idle, so all that it sends is tried
      have hidle := hl.tookIn_idle_of_frame hresult
      obtain ⟨hnothing, hnobody⟩ := (callback frame s).watch_neither (l.tookIn byte)
      have hran := (callback frame s).watch_snd (l.tookIn byte)
      exact {
        delivered := by
          rw [List.filterMap_append, hdelivered]
          exact congrArg (frame :: ·) hnothing
        refused := by
          rw [List.filterMap_append, hrefused]
          exact hnobody
        noise := by rw [hran, Callback.run_received, hnoise]
        tried := fun j => by
          rw [hran, Callback.watch_tried j _ hidle, hport, List.filterMap_append, htried]
          rfl }

theorem Balanced.answered_all {l : Link π} (hl : l.Balanced) (callback : Frame → σ → Callback σ)
    (bytes : List UInt8) (s : σ) :
    Answered (l.decoder.feed bytes).1 (Link.watchBytes callback bytes (l, s)).1 l
      (Link.watchBytes callback bytes (l, s)).2.1 := by
  induction bytes generalizing l s with
  | nil => exact .nil l
  | cons byte rest ih =>
    obtain ⟨_, hbalanced, hdecoder⟩ := hl.watchByte callback byte s
    have hbyte := hl.answered callback byte s
    have hrest := ih hbalanced (Link.watchByte callback byte (l, s)).2.2
    rw [hdecoder] at hrest
    exact hbyte.append hrest

end Link

/-! ## §3. Cutting a stream -/

namespace Call

open Link

/-- **Where a stream is cut does not matter**, on a link that has been used
    in any way and whatever is done with the frames.

    Without a frame error, any two cuts come to the same: the same is seen,
    so the same frames are delivered and written, and the link ends the same,
    with its port, decoder, line and counters.

    With frame errors, a chunk counts up to its first one.  Taking in the
    chunks is taking in the bytes that count, one at a time; what is seen is
    what the decoder answers to those bytes, so each error is refused once,
    and the link is idle when it has been. -/
theorem receive_up_to_errors (port : π) (lockTimeout : Nat) (calls : List (Call σ)) (s : σ)
    (callback : Frame → σ → Callback σ) :
    let start := performAll calls (Link.new port lockTimeout, s)
    let decoder := start.1.decoder
    let take := fun chunks : List (List UInt8) => watchAll (chunks.map (.receive · callback)) start
    (∀ chunks, (take chunks).2 = performAll (chunks.map (.receive · callback)) start)
      ∧ (∀ chunks chunks', chunks.flatten = chunks'.flatten →
        (∀ r ∈ (decoder.feed chunks.flatten).1, r.isOk = true) → take chunks = take chunks')
      ∧ ∀ chunks,
        take chunks = take ((decoder.keptOf chunks).map fun byte => [byte])
          ∧ Answered (decoder.feed (decoder.keptOf chunks)).1 (take chunks).1 start.1
            (take chunks).2.1
          ∧ (take chunks).2.1.decoder = (decoder.feed (decoder.keptOf chunks)).2
          ∧ ∀ e l, .refusal e l ∈ (take chunks).1 → l.decoder = .idle ∧ l.line = .free := by
  intro start decoder take
  have hstart : start.1.Balanced :=
    (watchAll_sound calls (idle_new port lockTimeout).balanced s).2
  have htake chunks : take chunks = watchBytes callback (decoder.keptOf chunks) start :=
    watchAll_receive callback chunks hstart start.2
  refine ⟨fun _ => watchAll_snd _ _, ?_, ?_⟩
  · intro chunks chunks' hsame hclean
    -- both come to the whole stream, byte by byte
    have hclean' : ∀ r ∈ (decoder.feed chunks'.flatten).1, r.isOk = true := hsame ▸ hclean
    rw [htake, htake, Decoder.keptOf_eq_flatten _ hclean, Decoder.keptOf_eq_flatten _ hclean',
      hsame]
  · intro chunks
    refine ⟨?_, ?_, ?_, ?_⟩
    · rw [htake, htake, Decoder.keptOf_singletons]
    · rw [htake]
      exact hstart.answered_all callback _ _
    · rw [htake]
      exact (hstart.watchBytes callback _ _).2
    · intro e l hmem
      have hidle : l.Idle := (watchAll_sound _ hstart start.2).1 _ hmem
      exact ⟨hidle.decoder, hidle.line⟩

/-- Data frames are counted, and acknowledged. -/
def acknowledge : Frame → Nat → Callback Nat
  | .data _, n => .send .ack fun _ => .done (n + 1)
  | _, n => .done n

/-- An ACK and a data frame, cut in two ways, come to the same.  A length that
    is too short is answered with a NAK, and what stands behind it in its
    chunk with nothing. -/
theorem receive_up_to_errors_of_frame_in_parts :
    let start := performAll [.openPort 1000] (Link.new (⟨{}, []⟩ : Logged ScriptedPort) 30000, 0)
    watchAll ([[0x06, 0x01], [0x03, 0x00], [0x15, 0xE9]].map (.receive · acknowledge)) start
        = watchAll ([[0x06, 0x01, 0x03, 0x00, 0x15, 0xE9]].map (.receive · acknowledge)) start
      ∧ (watchAll ([[0x01, 0x02, 0x06]].map (.receive · acknowledge)) start).2.1.port.log
        = start.1.port.log ++ [Frame.nak.toBytes] := by
  obtain ⟨_, hclean, herrors⟩ := receive_up_to_errors (⟨{}, []⟩ : Logged ScriptedPort) 30000
    [.openPort 1000] 0 acknowledge
  exact ⟨hclean _ _ rfl (by decide), (herrors [[0x01, 0x02, 0x06]]).2.1.tried Logged.journal⟩

end Call

end ZWaveHost
