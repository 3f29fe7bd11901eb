/-
  ZWaveHost.Proofs.Command.Position — where in a buffer a command is read.

  A reading that goes through a buffer from its cursor on sees the bytes that are
  left and nothing else: bytes in front of them, once read, change only the
  length that an underflow names (`Decode.Sequential`).  Two kinds of command are
  read at the first byte instead, wherever the cursor stands.  No reading takes
  the cursor back or past the end, and none changes a byte (`Decode.Advancing`),
  whether it succeeds or fails part of the way.

  Each law is proved for the readings of a buffer and for readings in steps; the
  readings of the commands have it by the way they are put together.

  Main statement: all kinds of command but two are read by what is left, those
  two by the first byte, and all of them leave a buffer in order
  (`decode_from_cursor`).
-/
import ZWaveHost.Command
import ZWaveHost.Proofs.Command.Reading

namespace ZWaveHost

/-! ## §1. Bytes in front -/

/-- The error in a buffer that is longer by some bytes: only an underflow tells
    the length. -/
def CodecError.lengthened (extra : Nat) : CodecError → CodecError
  | .bufferUnderflow length => .bufferUnderflow (extra + length)
  | fault => fault

namespace Buffer

/-- The buffer with bytes in front that have been read already. -/
def behind (before : List UInt8) (b : Buffer) : Buffer :=
  ⟨before ++ b.bytes, before.length + b.cursor⟩

theorem after_eq_behind (before left : List UInt8) :
    after before left = (ofBytes left).behind before := rfl

variable {before : List UInt8} {b b' b'' : Buffer}

theorem length_behind : (b.behind before).length = before.length + b.length := by
  simp [behind, length]

theorem remaining_behind : (b.behind before).remaining = b.remaining := by
  show (b.behind before).length - (before.length + b.cursor) = b.length - b.cursor
  rw [length_behind]
  omega

theorem hasNext_behind : (b.behind before).hasNext = b.hasNext := by
  show decide (before.length + b.cursor < (b.behind before).length)
    = decide (b.cursor < b.length)
  rw [length_behind]
  simp

theorem drop_behind :
    (b.behind before).bytes.drop (b.behind before).cursor = b.bytes.drop b.cursor := by
  show (before ++ b.bytes).drop (before.length + b.cursor) = b.bytes.drop b.cursor
  simp [List.drop_append]

theorem getElem?_behind :
    (b.behind before).bytes[(b.behind before).cursor]? = b.bytes[b.cursor]? := by
  show (before ++ b.bytes)[before.length + b.cursor]? = b.bytes[b.cursor]?
  rw [List.getElem?_append_right (by omega)]
  congr 1
  omega

/-! ## §2. The cursor -/

/-- What a reading may make of a buffer: the bytes are the same, and the cursor
    has not gone back, nor past the end. -/
structure Advances (b b' : Buffer) : Prop where
  bytes : b'.bytes = b.bytes
  forward : b.cursor ≤ b'.cursor
  within : b.cursor ≤ b.length → b'.cursor ≤ b.length

theorem Advances.refl : b.Advances b := ⟨rfl, Nat.le_refl _, id⟩

theorem Advances.trans (hfirst : b.Advances b') (hrest : b'.Advances b'') : b.Advances b'' := by
  have hlength : b'.length = b.length := congrArg List.length hfirst.bytes
  refine ⟨hrest.bytes.trans hfirst.bytes, Nat.le_trans hfirst.forward hrest.forward, ?_⟩
  intro hcursor
  have hbetween : b'.cursor ≤ b'.length := by
    rw [hlength]
    exact hfirst.within hcursor
  rw [← hlength]
  exact hrest.within hbetween

end Buffer

/-! ## §3. Readings in order -/

namespace Decode

variable {α β : Type}

/-- The reading never goes back, nor past the end, and changes no byte. -/
def Advancing (reading : Decode α) : Prop := ∀ b : Buffer, b.Advances (reading.run b).2

/-- The reading sees only what is left: bytes in front change nothing but the
    length that an underflow names. -/
structure Sequential (reading : Decode α) : Prop where
  advancing : reading.Advancing
  run_behind : ∀ before (b : Buffer), reading.run (b.behind before)
    = ((reading.run b).1.mapError (·.lengthened before.length),
      (reading.run b).2.behind before)

namespace Advancing

theorem bind {first : Decode α} {next : α → Decode β} (hfirst : first.Advancing)
    (hnext : ∀ a, (next a).Advancing) : (first >>= next : Decode β).Advancing := by
  intro b
  have hbetween := hfirst b
  rw [run_bind]
  rcases hread : first.run b with ⟨fault | a, between⟩
  · rw [hread] at hbetween
    exact hbetween
  · rw [hread] at hbetween
    exact hbetween.trans (hnext a between)

theorem map {reading : Decode α} (hreading : reading.Advancing) (f : α → β) :
    (f <$> reading : Decode β).Advancing := by
  intro b
  rw [run_map]
  exact hreading b

end Advancing

namespace Sequential

/-! ### Steps -/

protected theorem pure (a : α) : (pure a : Decode α).Sequential :=
  ⟨fun _ => .refl, fun _ _ => rfl⟩

/-- A fault that tells no length is the same in every buffer. -/
protected theorem fail {fault : CodecError} (hfault : ∀ extra, fault.lengthened extra = fault) :
    (Decode.fail fault : Decode α).Sequential := by
  refine ⟨fun _ => .refl, fun before b => ?_⟩
  show (Except.error fault, b.behind before)
    = (Except.error (fault.lengthened before.length), b.behind before)
  rw [hfault]

/-- A value that is looked up, where no look-up fails for want of bytes. -/
theorem lift {found : Except CodecError α}
    (hfound : ∀ extra, found.mapError (·.lengthened extra) = found) :
    Sequential (ExceptT.mk (pure found)) := by
  refine ⟨fun _ => .refl, fun before b => ?_⟩
  show (found, b.behind before) = (found.mapError (·.lengthened before.length), b.behind before)
  rw [hfound]

theorem bind {first : Decode α} {next : α → Decode β} (hfirst : first.Sequential)
    (hnext : ∀ a, (next a).Sequential) : (first >>= next : Decode β).Sequential := by
  refine ⟨hfirst.advancing.bind fun a => (hnext a).advancing, fun before b => ?_⟩
  rw [run_bind, run_bind, hfirst.run_behind]
  -- the first step fails in both buffers, or leads the same way in both
  rcases first.run b with ⟨fault | a, between⟩
  · rfl
  · exact (hnext a).run_behind before between

theorem map {reading : Decode α} (hreading : reading.Sequential) (f : α → β) :
    (f <$> reading : Decode β).Sequential := by
  refine ⟨hreading.advancing.map f, fun before b => ?_⟩
  rw [run_map, run_map, hreading.run_behind]
  rcases reading.run b with ⟨fault | a, unread⟩ <;> rfl

/-! ### Reads -/

theorem next : Sequential Buffer.next := by
  constructor
  · intro b
    show b.Advances (Buffer.next b).2
    unfold Buffer.next
    split
    · rename_i byte hbyte
      have hlt : b.cursor < b.length := (List.getElem?_eq_some_iff.mp hbyte).1
      exact ⟨rfl, Nat.le_succ _, fun _ => hlt⟩
    · exact .refl
  · intro before b
    show Buffer.next (b.behind before)
      = ((Buffer.next b).1.mapError _, (Buffer.next b).2.behind before)
    unfold Buffer.next
    rw [Buffer.getElem?_behind, Buffer.length_behind]
    cases b.bytes[b.cursor]? <;> rfl

theorem nextBytes (count : Nat) : Sequential (Buffer.nextBytes count) := by
  constructor
  · intro b
    show b.Advances (Buffer.nextBytes count b).2
    unfold Buffer.nextBytes
    split
    · exact .refl
    · rename_i hmany
      refine ⟨rfl, Nat.le_add_right _ _, fun hcursor => ?_⟩
      show b.cursor + count ≤ b.length
      simp only [Buffer.remaining] at hmany
      omega
  · intro before b
    show Buffer.nextBytes count (b.behind before)
      = ((Buffer.nextBytes count b).1.mapError _, (Buffer.nextBytes count b).2.behind before)
    unfold Buffer.nextBytes
    rw [Buffer.remaining_behind, Buffer.drop_behind, Buffer.length_behind]
    split
    · rfl
    · show (Except.ok _, (⟨before ++ b.bytes, before.length + b.cursor + count⟩ : Buffer))
        = (Except.ok _, ⟨before ++ b.bytes, before.length + (b.cursor + count)⟩)
      rw [Nat.add_assoc]

/-- A reading that looks at the buffer first, if it sees the same in front of
    more bytes. -/
theorem look (see : Buffer → β) (reading : β → Decode α)
    (hsee : ∀ before (b : Buffer), see (b.behind before) = see b)
    (hreading : ∀ seen, (reading seen).Sequential) :
    Sequential (do reading (see (← get))) := by
  constructor
  · intro b
    exact (hreading (see b)).advancing b
  · intro before b
    show (reading (see (b.behind before))).run (b.behind before) = _
    rw [hsee]
    exact (hreading (see b)).run_behind before b

theorem next? : Sequential Buffer.next? := by
  refine look Buffer.hasNext (fun more => if more then some <$> Buffer.next else pure none)
    (fun _ _ => Buffer.hasNext_behind) ?_
  intro more
  cases more with
  | true => exact next.map some
  | false => exact .pure none

theorem nextRest : Sequential Buffer.nextRest :=
  look Buffer.remaining Buffer.nextBytes (fun _ _ => Buffer.remaining_behind) nextBytes

theorem nextUInt16 : Sequential Buffer.nextUInt16 := (nextBytes 2).bind fun _ => .pure _

theorem nextUInt32 : Sequential Buffer.nextUInt32 := (nextBytes 4).bind fun _ => .pure _

end Sequential

end Decode

/-! ## §4. Commands about the module -/

theorem ApiStarted.sequential_decode : ApiStarted.decode.Sequential :=
  .bind .next fun _ => .bind .next fun _ => .bind .next fun _ => .bind .next fun _ =>
    .bind .next fun _ => .bind .next fun length => .bind (.nextBytes length.toNat) fun _ =>
      .bind .next? fun _ => .pure _

theorem InitData.sequential_decode : InitData.decode.Sequential := by
  refine .bind .next fun _ => .bind .next fun _ => .bind .next fun length => ?_
  -- a node list of another length fails before it is read
  by_cases hlength : length ≠ nodeBitmaskLength
  · simp only [if_pos hlength]
    exact .bind (.fail fun _ => rfl) fun _ => .bind (.nextBytes _) fun _ =>
      .bind .next fun _ => .bind .next fun _ => .pure _
  · simp only [if_neg hlength]
    exact .bind (.nextBytes _) fun _ => .bind .next fun _ => .bind .next fun _ => .pure _

theorem Capabilities.sequential_decode : Capabilities.decode.Sequential :=
  .bind .next fun _ => .bind .next fun _ => .bind .nextUInt16 fun _ => .bind .nextUInt16 fun _ =>
    .bind .nextUInt16 fun _ => .bind .nextRest fun _ => .pure _

theorem LibraryVersion.sequential_decode : LibraryVersion.decode.Sequential := by
  refine .bind (.nextBytes _) fun raw => ?_
  dsimp only
  split
  · exact .fail fun _ => rfl
  · exact .bind .next fun _ => .pure _

theorem PreviousTimeouts.sequential_decode : PreviousTimeouts.decode.Sequential :=
  .bind .next fun _ => .bind .next fun _ => .pure _

theorem NetworkIds.sequential_decode : NetworkIds.decode.Sequential :=
  .bind .nextUInt32 fun _ => .bind .next fun _ => .pure _

theorem SetDefaultComplete.sequential_decode : SetDefaultComplete.decode.Sequential :=
  .bind .next fun _ => .pure _

theorem SucNodeId.sequential_decode : SucNodeId.decode.Sequential :=
  .bind .next fun _ => .pure _

/-! ## §5. Commands about nodes and transmissions -/

theorem NodeProtocolInfo.sequential_decode : NodeProtocolInfo.decode.Sequential :=
  .bind .next fun _ => .bind .next fun _ => .bind .next fun _ => .bind .next fun _ =>
    .bind .next fun _ => .bind .next fun _ => .pure _

/-- An event that is not known is not for want of bytes. -/
theorem UpdateEvent.mapError_ofByte (code : UInt8) (extra : Nat) :
    (UpdateEvent.ofByte code).mapError (·.lengthened extra) = UpdateEvent.ofByte code := by
  unfold UpdateEvent.ofByte
  split <;> rfl

theorem ApplicationUpdate.sequential_decode : ApplicationUpdate.decode.Sequential := by
  refine .bind .next fun code => .bind (.lift (UpdateEvent.mapError_ofByte code)) fun _ =>
    .bind .next fun _ => .bind .next fun length => ?_
  by_cases hzero : length = 0
  · rw [if_pos hzero]
    exact .pure _
  · rw [if_neg hzero]
    exact .bind .next fun _ => .bind .next fun _ => .bind .next fun _ =>
      .bind (.nextBytes _) fun _ => .pure _

theorem ApplicationCommand.sequential_decode : ApplicationCommand.decode.Sequential :=
  .bind .next fun _ => .bind .next fun _ => .bind .next fun length =>
    .bind (.nextBytes length.toNat) fun _ => .bind .next? fun _ => .pure _

theorem TxReport.sequential_decode : TxReport.decode.Sequential :=
  .bind .next fun _ => .bind .next? fun _ => .bind .nextRest fun _ => .pure _

theorem BackgroundRssi.sequential_decode : BackgroundRssi.decode.Sequential :=
  .bind .next fun _ => .bind .next fun _ => .bind .next fun _ => .pure _

/-! ## §6. All commands -/

/-- The kinds of command that are read at the first byte of the buffer. -/
def CommandKind.isAbsolute : CommandKind → Bool
  | .controllerCapabilities | .nodeInformationRequested => true
  | _ => false

theorem Buffer.run_peek (index : Nat) (b : Buffer) :
    Decode.run (Buffer.peek index) b = (b.get index, b) := rfl

namespace Command

/-- **All kinds but two** are read by what is left. -/
theorem sequential_decode {kind : CommandKind} (hkind : kind.isAbsolute = false) :
    (Command.decode kind).Sequential := by
  cases kind with
  | initData => exact InitData.sequential_decode.map _
  | applicationCommand => exact ApplicationCommand.sequential_decode.map _
  | controllerCapabilities => cases hkind
  | previousTimeouts => exact PreviousTimeouts.sequential_decode.map _
  | capabilities => exact Capabilities.sequential_decode.map _
  | apiStarted => exact ApiStarted.sequential_decode.map _
  | sendDataAccepted => exact .map (.bind .next fun _ => .pure _) _
  | sendDataComplete => exact .map (.bind TxReport.sequential_decode fun _ => .pure _) _
  | libraryVersion => exact LibraryVersion.sequential_decode.map _
  | networkIds => exact NetworkIds.sequential_decode.map _
  | backgroundRssi => exact BackgroundRssi.sequential_decode.map _
  | nodeProtocolInfo => exact NodeProtocolInfo.sequential_decode.map _
  | setDefaultComplete => exact SetDefaultComplete.sequential_decode.map _
  | applicationUpdate => exact ApplicationUpdate.sequential_decode.map _
  | sucNodeId => exact SucNodeId.sequential_decode.map _
  | nodeInformationRequested => cases hkind
  | sendNopAccepted => exact .map (.bind .next fun _ => .pure _) _
  | sendNopComplete => exact .map (.bind TxReport.sequential_decode fun _ => .pure _) _

/-- **Two kinds** are read at the first byte, and leave the cursor where it is. -/
theorem exists_run_of_isAbsolute {kind : CommandKind} (hkind : kind.isAbsolute = true) :
    ∃ value : UInt8 → Command, ∀ b, (Command.decode kind).run b = ((b.get 0).map value, b) := by
  cases kind with
  | controllerCapabilities =>
    refine ⟨fun byte => .controllerCapabilities ⟨ControllerCapability.ofByte byte⟩, fun b => ?_⟩
    show (Command.controllerCapabilities <$> ControllerCapabilities.decode).run b = _
    unfold ControllerCapabilities.decode
    rw [Decode.run_map, Decode.run_bind, Buffer.run_peek]
    cases b.get 0 <;> rfl
  | nodeInformationRequested =>
    refine ⟨fun byte => .nodeInformationRequested ⟨byte ≠ 0x00⟩, fun b => ?_⟩
    show (Command.nodeInformationRequested <$> NodeInformationRequested.decode).run b = _
    unfold NodeInformationRequested.decode
    rw [Decode.run_map, Decode.run_bind, Buffer.run_peek]
    cases b.get 0 <;> rfl
  | _ => cases hkind

/-- No command takes the cursor back or past the end, or changes a byte. -/
theorem advancing_decode (kind : CommandKind) : (Command.decode kind).Advancing := by
  cases hkind : kind.isAbsolute with
  | false => exact (sequential_decode hkind).advancing
  | true =>
    obtain ⟨value, hrun⟩ := exists_run_of_isAbsolute hkind
    intro b
    rw [hrun]
    exact .refl

end Command

/-- **All kinds of command but two are read by what is left.**  Behind bytes that
    have been read, such a kind gives what it gives of the bytes that are left
    alone, in a buffer of their own: the same command, or the same error but for
    the length in an underflow, and as many bytes are left unread.  The other two
    kinds are made of the first byte of the buffer, or fail for want of it, and
    leave the cursor where it stands.  With all kinds, and also with one that
    fails part of the way, the bytes stay as they are and the cursor goes neither
    back nor past the end. -/
theorem decode_from_cursor (kind : CommandKind) :
    (if kind.isAbsolute then
        ∃ value : UInt8 → Command, ∀ b, (Command.decode kind).run b = ((b.get 0).map value, b)
      else
        ∀ before left,
          ((Command.decode kind).run (.after before left)).1
              = ((Command.decode kind).run (.ofBytes left)).1.mapError (·.lengthened before.length)
            ∧ ((Command.decode kind).run (.after before left)).2.remaining
              = ((Command.decode kind).run (.ofBytes left)).2.remaining)
      ∧ ∀ b : Buffer, b.Advances ((Command.decode kind).run b).2 := by
  refine ⟨?_, Command.advancing_decode kind⟩
  cases hkind : kind.isAbsolute with
  | true =>
    rw [if_pos rfl]
    exact Command.exists_run_of_isAbsolute hkind
  | false =>
    rw [if_neg Bool.false_ne_true]
    intro before left
    have hrun := (Command.sequential_decode hkind).run_behind before (.ofBytes left)
    rw [Buffer.after_eq_behind, hrun]
    exact ⟨rfl, Buffer.remaining_behind⟩

end ZWaveHost
