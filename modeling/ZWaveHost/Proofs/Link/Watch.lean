/-
  ZWaveHost.Proofs.Link.Watch — what is to be seen of a link in use.

  A link is used by one call after the other: it is opened and closed, frames
  are sent, chunks are taken in, the decoder is brought back between frames.
  Whoever is given the frames of a chunk may send frames itself (`Callback`).
  A watcher sees when the receiver takes the line, when a frame is delivered,
  and what every sender leaves behind (`Sight`); watching changes nothing
  (`watchReceive_snd`).

  Main statement: the line is held exactly while a frame is being received,
  so nobody waits for it who does not have to (`line_held_iff_inFrame`).
-/
import ZWaveHost.Proofs.Link.Reception

namespace ZWaveHost

variable {π σ : Type}

/-! ## §1. Calls and callbacks -/

/-- What is done with a frame that is delivered.  Frames may be sent, one
    after the other, each chosen by what has come of those before it. -/
inductive Callback (σ : Type) where
  | done (s : σ)
  | send (frame : Frame) (next : Except HostError Unit → Callback σ)

/-- A use of a link. -/
inductive Call (σ : Type) where
  | openPort (timeout : Nat)
  | closePort
  | send (frame : Frame)
  | resynchronize
  /-- A chunk comes in; each frame in it goes to the callback. -/
  | receive (bytes : List UInt8) (callback : Frame → σ → Callback σ)

/-- What is to be seen of a call. -/
inductive Sight (π : Type) where
  /-- A data frame begins, and the receiver is about to take the line. -/
  | taking (l : Link π)
  /-- A frame is about to be handed to its callback. -/
  | delivery (frame : Frame) (l : Link π)
  /-- Somebody has sent a frame, or has failed to. -/
  | sending (frame : Frame) (l : Link π)
  /-- A malformed frame has been answered with a NAK. -/
  | refusal (error : FrameError) (l : Link π)

variable [Port π]

namespace Callback

/-- Does what is to be done. -/
def run : Callback σ → Link π → Link π × σ
  | .done s, l => (l, s)
  | .send frame next, l => (next (l.send frame).1).run (l.send frame).2

/-- Does what is to be done, and is watched. -/
def watch : Callback σ → Link π → List (Sight π) × Link π × σ
  | .done s, l => ([], l, s)
  | .send frame next, l =>
    let (seen, s) := (next (l.send frame).1).watch (l.send frame).2
    (.sending frame (l.send frame).2 :: seen, s)

theorem watch_snd (c : Callback σ) (l : Link π) : (c.watch l).2 = c.run l := by
  induction c generalizing l with
  | done s => rfl
  | send frame next ih => exact ih _ _

end Callback

namespace Link

/-- Each frame goes to its callback. -/
def deliverTo (callback : Frame → σ → Callback σ) (frame : Frame) (s : Link π × σ) :
    Link π × σ :=
  (callback frame s.2).run s.1

omit [Port π] in
/-- Whether a byte begins a data frame, for which the receiver takes the line. -/
def begins (l : Link π) (byte : UInt8) : Bool :=
  !l.decoder.inFrame && (l.decoder.push byte).2.inFrame

/-- A byte is taken in, and what comes of it is watched. -/
def watchByte (callback : Frame → σ → Callback σ) (byte : UInt8) (s : Link π × σ) :
    List (Sight π) × Link π × σ :=
  let l := s.1.tookIn byte
  let taking := if s.1.begins byte then [.taking s.1] else []
  match (s.1.decoder.push byte).1 with
  | .ok (.frame frame) =>
    let (seen, t) := (callback frame s.2).watch l
    (taking ++ .delivery frame l :: seen, t)
  | .ok _ => (taking, l, s.2)
  | .error e => (taking ++ [.refusal e (l.send .nak).2], (l.send .nak).2, s.2)

/-- A chunk is taken in, up to a frame error, and watched. -/
def watchReceive (callback : Frame → σ → Callback σ) :
    List UInt8 → Link π × σ → List (Sight π) × Link π × σ
  | [], s => ([], s)
  | byte :: rest, s =>
    let (seen, t) := watchByte callback byte s
    match (s.1.decoder.push byte).1 with
    | .ok _ =>
      let (more, u) := watchReceive callback rest t
      (seen ++ more, u)
    | .error _ => (seen, t)

theorem watchByte_snd (callback : Frame → σ → Callback σ) (byte : UInt8) (l : Link π) (s : σ) :
    (watchByte callback byte (l, s)).2
      = handle (deliverTo callback) (l.decoder.push byte).1 (l.tookIn byte, s) := by
  unfold watchByte
  dsimp only
  cases (l.decoder.push byte).1 with
  | error e => rfl
  | ok event =>
    cases event with
    | pending => rfl
    | outOfFrame noise => rfl
    | frame frame => exact (callback frame s).watch_snd (l.tookIn byte)

/-- **Watching changes nothing.** -/
theorem watchReceive_snd (callback : Frame → σ → Callback σ) (bytes : List UInt8)
    (s : Link π × σ) :
    (watchReceive callback bytes s).2 = receive (deliverTo callback) bytes s := by
  -- by induction on the bytes; both stop at the first frame error
  induction bytes generalizing s with
  | nil => rfl
  | cons byte rest ih =>
    obtain ⟨l, s⟩ := s
    have hbyte := watchByte_snd callback byte l s
    unfold watchReceive
    dsimp only
    cases hresult : (l.decoder.push byte).1 with
    | error e =>
      rw [hresult] at hbyte
      rw [receive_cons_of_error hresult]
      exact hbyte
    | ok event =>
      rw [hresult] at hbyte
      rw [receive_cons_of_ok hresult, ← hbyte]
      exact ih _

end Link

namespace Call

open Link

/-- Makes a call. -/
def perform (c : Call σ) (s : Link π × σ) : Link π × σ :=
  match c with
  | .openPort timeout => ((s.1.openPort timeout).2, s.2)
  | .closePort => (s.1.closePort.2, s.2)
  | .send frame => ((s.1.send frame).2, s.2)
  | .resynchronize => (s.1.resynchronize, s.2)
  | .receive bytes callback => Link.receive (deliverTo callback) bytes s

/-- Makes calls, one after the other. -/
def performAll (calls : List (Call σ)) (s : Link π × σ) : Link π × σ :=
  calls.foldl (fun s c => c.perform s) s

/-- Makes a call, and is watched.  A port that opens is sent a NAK. -/
def watch (c : Call σ) (s : Link π × σ) : List (Sight π) × Link π × σ :=
  match c with
  | .openPort timeout =>
    match Port.openWithin timeout s.1.port with
    | (.ok true, port) =>
      ([.sending .nak (({ s.1 with port := port } : Link π).send .nak).2],
        (s.1.openPort timeout).2, s.2)
    | _ => ([], (s.1.openPort timeout).2, s.2)
  | .closePort => ([], s.1.closePort.2, s.2)
  | .send frame => ([.sending frame (s.1.send frame).2], (s.1.send frame).2, s.2)
  | .resynchronize => ([], s.1.resynchronize, s.2)
  | .receive bytes callback => watchReceive callback bytes s

/-- Makes calls, one after the other, and is watched. -/
def watchAll : List (Call σ) → Link π × σ → List (Sight π) × Link π × σ
  | [], s => ([], s)
  | c :: rest, s =>
    let (seen, t) := c.watch s
    let (more, u) := watchAll rest t
    (seen ++ more, u)

theorem watch_snd (c : Call σ) (s : Link π × σ) : (c.watch s).2 = c.perform s := by
  cases c with
  | openPort timeout =>
    show (match Port.openWithin timeout s.1.port with
      | (.ok true, port) => _
      | _ => _ : List (Sight π) × Link π × σ).2 = _
    split <;> rfl
  | receive bytes callback => exact watchReceive_snd callback bytes s
  | closePort => rfl
  | send frame => rfl
  | resynchronize => rfl

theorem watchAll_snd (calls : List (Call σ)) (s : Link π × σ) :
    (watchAll calls s).2 = performAll calls s := by
  induction calls generalizing s with
  | nil => rfl
  | cons c rest ih =>
    show (watchAll rest (c.watch s).2).2 = performAll rest (c.perform s)
    rw [ih, c.watch_snd]

end Call

/-! ## §2. Nobody waits in vain -/

/-- What the line is like where a watcher looks: the receiver that takes it
    finds it free, and everybody else finds the link idle. -/
def Sight.Sound : Sight π → Prop
  | .taking l => l.line = .free
  | .delivery _ l => l.Idle
  | .sending _ l => l.Idle
  | .refusal _ l => l.Idle

theorem Callback.watch_sound (c : Callback σ) {l : Link π} (hl : l.Idle) :
    (∀ sight ∈ (c.watch l).1, sight.Sound) ∧ (c.run l).1.Idle := by
  -- by induction on what it does; each sender leaves the link idle for the next
  induction c generalizing l with
  | done s =>
    refine ⟨?_, hl⟩
    intro sight hmem
    cases hmem
  | send frame next ih =>
    have hsent := hl.send_idle frame
    obtain ⟨hseen, hidle⟩ := ih (l.send frame).1 hsent
    refine ⟨?_, hidle⟩
    intro sight hmem
    rcases List.mem_cons.mp hmem with rfl | hlater
    · exact hsent
    · exact hseen sight hlater

namespace Link

/-- A callback leaves the link idle, whatever it sends. -/
theorem keepsIdle_deliverTo (callback : Frame → σ → Callback σ) :
    KeepsIdle (deliverTo callback : Frame → Link π × σ → _) :=
  fun frame _ s hl => ((callback frame s).watch_sound hl).2

omit [Port π] in
/-- The line is free for a frame that begins. -/
theorem Balanced.free_of_begins {l : Link π} (hl : l.Balanced) {byte : UInt8}
    (hbegins : l.begins byte = true) : l.line = .free := by
  unfold begins at hbegins
  rw [Bool.and_eq_true, Bool.not_eq_true'] at hbegins
  unfold Link.Balanced at hl
  rw [hbegins.1] at hl
  exact Line.eq_free_of_not_held hl

/-- **A byte is handled without waiting**, and whatever comes of it, the
    link is in balance and the decoder is where the byte has left it. -/
theorem Balanced.watchByte {l : Link π} (hl : l.Balanced) (callback : Frame → σ → Callback σ)
    (byte : UInt8) (s : σ) :
    (∀ sight ∈ (watchByte callback byte (l, s)).1, sight.Sound)
      ∧ (Link.watchByte callback byte (l, s)).2.1.Balanced
      ∧ (Link.watchByte callback byte (l, s)).2.1.decoder = (l.decoder.push byte).2 := by
  obtain ⟨hbalanced, hdecoder⟩ := hl.handle (keepsIdle_deliverTo callback) byte s
  rw [watchByte_snd]
  refine ⟨?_, hbalanced, hdecoder⟩
  have htookIn : (l.tookIn byte).Balanced := hl.receiveByte byte
  have htaking : ∀ sight ∈ (if l.begins byte then [Sight.taking l] else []), sight.Sound := by
    intro sight hmem
    split at hmem
    · next hbegins =>
      rw [List.mem_singleton.mp hmem]
      exact hl.free_of_begins hbegins
    · cases hmem
  intro sight hmem
  unfold Link.watchByte at hmem
  dsimp only at hmem
  cases hresult : (l.decoder.push byte).1 with
  | error e =>
    rw [hresult] at hmem
    rcases List.mem_append.mp hmem with hfirst | hnak
    · exact htaking sight hfirst
    · rw [List.mem_singleton.mp hnak]
      exact htookIn.send_idle .nak
  | ok event =>
    rw [hresult] at hmem
    cases event with
    | pending => exact htaking sight hmem
    | outOfFrame noise => exact htaking sight hmem
    | frame frame =>
      have hidle := hl.tookIn_idle_of_frame hresult
      rcases List.mem_append.mp hmem with hfirst | hlater
      · exact htaking sight hfirst
      · rcases List.mem_cons.mp hlater with rfl | hcallback
        · exact hidle
        · exact ((callback frame s).watch_sound hidle).1 sight hcallback

theorem Balanced.watchReceive {l : Link π} (hl : l.Balanced) (callback : Frame → σ → Callback σ)
    (bytes : List UInt8) (s : σ) :
    ∀ sight ∈ (watchReceive callback bytes (l, s)).1, sight.Sound := by
  -- by induction on the bytes; each leaves the link in balance for the next
  induction bytes generalizing l s with
  | nil =>
    intro sight hmem
    cases hmem
  | cons byte rest ih =>
    obtain ⟨hseen, hbalanced, _⟩ := hl.watchByte callback byte s
    intro sight hmem
    unfold Link.watchReceive at hmem
    dsimp only at hmem
    cases hresult : (l.decoder.push byte).1 with
    | error e =>
      rw [hresult] at hmem
      exact hseen sight hmem
    | ok event =>
      rw [hresult] at hmem
      rcases List.mem_append.mp hmem with hfirst | hlater
      · exact hseen sight hfirst
      · exact ih hbalanced _ sight hlater

end Link

namespace Call

open Link

/-- **Every call keeps the link in balance**, and lets nobody wait in vain. -/
theorem watch_sound (c : Call σ) {l : Link π} (hl : l.Balanced) (s : σ) :
    (∀ sight ∈ (c.watch (l, s)).1, sight.Sound) ∧ (c.perform (l, s)).1.Balanced := by
  have hblind : ∀ sight ∈ ([] : List (Sight π)), sight.Sound := by
    intro sight hmem
    cases hmem
  cases c with
  | openPort timeout =>
    refine ⟨?_, hl.openPort timeout⟩
    intro sight hmem
    unfold watch at hmem
    dsimp only at hmem
    split at hmem
    · -- the port may be another one now, but the line and the decoder are the same
      next port _ =>
      rw [List.mem_singleton.mp hmem]
      exact (hl.withPort port).send_idle .nak
    · cases hmem
  | closePort => exact ⟨hblind, hl.closePort⟩
  | send frame =>
    have hsent := hl.send_idle frame
    refine ⟨?_, hsent.balanced⟩
    intro sight hmem
    rw [List.mem_singleton.mp hmem]
    exact hsent
  | resynchronize => exact ⟨hblind, hl.resynchronize_idle.balanced⟩
  | receive bytes callback =>
    exact ⟨hl.watchReceive callback bytes s,
      (hl.receive (keepsIdle_deliverTo callback) bytes s).1⟩

theorem watchAll_sound (calls : List (Call σ)) {l : Link π} (hl : l.Balanced) (s : σ) :
    (∀ sight ∈ (watchAll calls (l, s)).1, sight.Sound)
      ∧ (performAll calls (l, s)).1.Balanced := by
  -- every call begins in balance, because the one before it has left it so
  induction calls generalizing l s with
  | nil =>
    refine ⟨?_, hl⟩
    intro sight hmem
    cases hmem
  | cons c rest ih =>
    obtain ⟨hseen, hbalanced⟩ := c.watch_sound hl s
    obtain ⟨hlater, hend⟩ := ih hbalanced (c.perform (l, s)).2
    refine ⟨?_, hend⟩
    intro sight hmem
    rcases List.mem_append.mp hmem with hfirst | hrest
    · exact hseen sight hfirst
    · have hrest : sight ∈ (watchAll rest (c.watch (l, s)).2).1 := hrest
      rw [c.watch_snd] at hrest
      exact hlater sight hrest

/-- **The line is held exactly while a frame is being received**: after any
    calls on a new link, whatever its port answers, and whenever a frame is
    delivered.  So the receiver never waits for the line it takes, a frame is
    delivered over a free line, and a sender leaves the line free and the
    decoder between frames, whether it has sent its frame or not.  What is
    watched are the calls themselves. -/
theorem line_held_iff_inFrame (port : π) (lockTimeout : Nat) (calls : List (Call σ)) (s : σ) :
    let start := (Link.new port lockTimeout, s)
    let seen := (watchAll calls start).1
    let between := (performAll calls start).1
    (watchAll calls start).2 = performAll calls start
      ∧ (between.line.isHeld = true ↔ between.decoder.inFrame = true)
      ∧ (∀ l, .taking l ∈ seen → l.line.acquire? = some .held)
      ∧ (∀ frame l, .delivery frame l ∈ seen →
        (l.line.isHeld = true ↔ l.decoder.inFrame = true) ∧ l.line = .free)
      ∧ (∀ frame l, .sending frame l ∈ seen → l.line = .free ∧ l.decoder = .idle)
      ∧ ∀ error l, .refusal error l ∈ seen → l.line = .free ∧ l.decoder = .idle := by
  intro start seen between
  obtain ⟨hsound, hbalanced⟩ := watchAll_sound calls (idle_new port lockTimeout).balanced s
  have hiff {l : Link π} (hl : l.Balanced) :
      l.line.isHeld = true ↔ l.decoder.inFrame = true := by
    unfold Link.Balanced at hl
    rw [hl]
  refine ⟨watchAll_snd calls start, hiff hbalanced, ?_, ?_, ?_, ?_⟩
  · intro l hmem
    have hfree : l.line = .free := hsound _ hmem
    rw [hfree]
    rfl
  · intro frame l hmem
    have hidle : l.Idle := hsound _ hmem
    exact ⟨hiff hidle.balanced, hidle.line⟩
  · intro frame l hmem
    have hidle : l.Idle := hsound _ hmem
    exact ⟨hidle.line, hidle.decoder⟩
  · intro error l hmem
    have hidle : l.Idle := hsound _ hmem
    exact ⟨hidle.line, hidle.decoder⟩

end Call

end ZWaveHost
