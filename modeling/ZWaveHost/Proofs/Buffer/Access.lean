/-
  ZWaveHost.Proofs.Buffer.Access — any use of a buffer, in any order.

  A use is an access at an index or a read at the cursor.  What it has to do is a
  relation (`Buffer.Serves`) with one case for each kind of success and one for
  all failures: the bytes that are asked for are not there, and nothing changes.
  What a read makes of its bytes is a relation too (`Read.Spells`), which writes
  out the numbers that they are the digits of in base 256.

  All reads are one: they take their width off the bytes that are left, or
  nothing (`Read.run_after`).  So a run of uses keeps the cursor within the
  buffer, and between writes the answers spell the bytes that have been read.

  Main statement: every use in every run serves, the cursor and what is left make
  up the length, and without writes the answers to the reads spell the bytes up to
  the cursor (`accesses_in_order`).
-/
import ZWaveHost.Proofs.Command.Reading

namespace ZWaveHost

/-! ## §1. Uses -/

/-- A read at the cursor. -/
inductive Read where
  | byte
  | bytes (count : Nat)
  | uint16
  | uint24
  | uint32
  deriving DecidableEq

/-- One use of a buffer. -/
inductive Access where
  | get (index : Nat)
  | set (index : Nat) (value : UInt8)
  | read (read : Read)
  deriving DecidableEq

/-- What a use answers. -/
inductive Answer where
  | done
  | byte (value : UInt8)
  | bytes (values : List UInt8)
  | uint16 (value : UInt16)
  | uint32 (value : UInt32)
  deriving DecidableEq

/-- A read is carried out by the reading of that name. -/
def Read.reading : Read → Decode Answer
  | .byte => .byte <$> Buffer.next
  | .bytes count => .bytes <$> Buffer.nextBytes count
  | .uint16 => .uint16 <$> Buffer.nextUInt16
  | .uint24 => .uint32 <$> Buffer.nextUInt24
  | .uint32 => .uint32 <$> Buffer.nextUInt32

namespace Buffer

/-- A byte is put at an index; the buffer stays as it is where that fails. -/
def put (b : Buffer) (index : Nat) (value : UInt8) : Except CodecError Answer × Buffer :=
  match b.set index value with
  | .ok written => (.ok .done, written)
  | .error fault => (.error fault, b)

/-- A use, with its answer. -/
def use (b : Buffer) : Access → Except CodecError Answer × Buffer
  | .get index => ((b.get index).map .byte, b)
  | .set index value => b.put index value
  | .read r => r.reading.run b

/-- Uses one after the other, with their answers. -/
def uses (b : Buffer) : List Access → List (Access × Except CodecError Answer) × Buffer
  | [] => ([], b)
  | a :: rest => ((a, (b.use a).1) :: ((b.use a).2.uses rest).1, ((b.use a).2.uses rest).2)

end Buffer

/-! ## §2. What a use has to do -/

namespace Read

/-- How many bytes a read takes. -/
def width : Read → Nat
  | .byte => 1
  | .bytes count => count
  | .uint16 => 2
  | .uint24 => 3
  | .uint32 => 4

/-- Bytes spell the answer to a read: themselves, or the number that has them as its
    digits in base 256, the highest first. -/
inductive Spells : Read → List UInt8 → Answer → Prop where
  | byte (value : UInt8) : Spells .byte [value] (.byte value)
  | bytes (values : List UInt8) : Spells (.bytes values.length) values (.bytes values)
  | uint16 {a b : UInt8} {n : UInt16} (hvalue : n.toNat = 256 * a.toNat + b.toNat) :
    Spells .uint16 [a, b] (.uint16 n)
  | uint24 {a b c : UInt8} {n : UInt32}
    (hvalue : n.toNat = 65536 * a.toNat + 256 * b.toNat + c.toNat) :
    Spells .uint24 [a, b, c] (.uint32 n)
  | uint32 {a b c d : UInt8} {n : UInt32}
    (hvalue : n.toNat = 16777216 * a.toNat + 65536 * b.toNat + 256 * c.toNat + d.toNat) :
    Spells .uint32 [a, b, c, d] (.uint32 n)

theorem Spells.length_eq {r : Read} {taken : List UInt8} {answer : Answer}
    (hspells : r.Spells taken answer) : taken.length = r.width := by
  cases hspells <;> rfl

end Read

namespace Access

/-- The bytes that a use asks for are there. -/
def IsThere (b : Buffer) : Access → Prop
  | .get index => index < b.length
  | .set index _ => index < b.length
  | .read r => b.cursor + r.width ≤ b.length

/-- The fault of a use whose bytes are not there. -/
def fault (b : Buffer) : Access → CodecError
  | .get index => .indexOutOfBounds index b.length
  | .set index _ => .indexOutOfBounds index b.length
  | .read _ => .bufferUnderflow b.length

/-- Whether a use writes. -/
def writes : Access → Bool
  | .set _ _ => true
  | _ => false

end Access

/-- **What a use of a buffer has to do.**  It gets the byte at an index; or it puts one
    there, and all else stays; or it takes bytes behind the cursor that spell its
    answer, and moves the cursor past them; or the bytes are not there, and it
    fails and leaves the buffer as it is. -/
inductive Buffer.Serves (b : Buffer) : Access → Except CodecError Answer × Buffer → Prop where
  | got {index : Nat} {value : UInt8} (hbyte : b.bytes[index]? = some value) :
    b.Serves (.get index) (.ok (.byte value), b)
  | put {index : Nat} {value : UInt8} {bytes : List UInt8} (hthere : index < b.length)
    (hbytes : ∀ i, bytes[i]? = if i = index then some value else b.bytes[i]?) :
    b.Serves (.set index value) (.ok .done, ⟨bytes, b.cursor⟩)
  | taken {r : Read} {taken left : List UInt8} {answer : Answer}
    (hleft : b.bytes.drop b.cursor = taken ++ left) (hspells : r.Spells taken answer) :
    b.Serves (.read r) (.ok answer, ⟨b.bytes, b.cursor + taken.length⟩)
  | refused {a : Access} (hnot : ¬ a.IsThere b) : b.Serves a (.error (a.fault b), b)

/-! ## §3. Reads -/

namespace Read

/-- What a read makes of the bytes that it takes. -/
def answer : Read → List UInt8 → Answer
  | .byte, taken => .byte (taken.headD 0)
  | .bytes _, taken => .bytes taken
  | .uint16, taken => .uint16 (UInt16.ofNat (Buffer.bigEndian taken))
  | .uint24, taken => .uint32 (UInt32.ofNat (Buffer.bigEndian taken))
  | .uint32, taken => .uint32 (UInt32.ofNat (Buffer.bigEndian taken))

/-- **The bytes spell the answer**: so few of them make a number in range. -/
theorem spells_answer {r : Read} {taken : List UInt8} (hlength : taken.length = r.width) :
    r.Spells taken (r.answer taken) := by
  cases r with
  | byte =>
    match taken, hlength with
    | [a], _ => exact .byte a
  | bytes count =>
    obtain rfl : taken.length = count := hlength
    exact .bytes taken
  | uint16 =>
    match taken, hlength with
    | [a, b], _ =>
      refine .uint16 ?_
      have ha := a.toNat_lt
      have hb := b.toNat_lt
      simp only [UInt16.toNat_ofNat', Buffer.bigEndian, List.foldl_cons, List.foldl_nil]
      omega
  | uint24 =>
    match taken, hlength with
    | [a, b, c], _ =>
      refine .uint24 ?_
      have ha := a.toNat_lt
      have hb := b.toNat_lt
      have hc := c.toNat_lt
      simp only [UInt32.toNat_ofNat', Buffer.bigEndian, List.foldl_cons, List.foldl_nil]
      omega
  | uint32 =>
    match taken, hlength with
    | [a, b, c, d], _ =>
      refine .uint32 ?_
      have ha := a.toNat_lt
      have hb := b.toNat_lt
      have hc := c.toNat_lt
      have hd := d.toNat_lt
      simp only [UInt32.toNat_ofNat', Buffer.bigEndian, List.foldl_cons, List.foldl_nil]
      omega

/-- **All reads are one**: a read takes its width off the bytes that are left, or it
    fails and takes nothing. -/
theorem run_after (r : Read) (before left : List UInt8) :
    r.reading.run (.after before left)
      = if r.width ≤ left.length then
          (.ok (r.answer (left.take r.width)),
            .after (before ++ left.take r.width) (left.drop r.width))
        else (.error (.bufferUnderflow (before.length + left.length)), .after before left) := by
  -- a number is made of bytes, and an answer of the number
  have hnumber {ν : Type} (count : Nat) (make : List UInt8 → ν) (wrap : ν → Answer) :
      Decode.run (wrap <$> (Buffer.nextBytes count >>= fun taken => pure (make taken) : Decode ν))
          (.after before left)
        = if count ≤ left.length then
            (.ok (wrap (make (left.take count))),
              .after (before ++ left.take count) (left.drop count))
          else (.error (.bufferUnderflow (before.length + left.length)), .after before left) := by
    rw [Decode.run_map, Buffer.run_nextBytes_bind]
    split <;> rfl
  cases r with
  | byte =>
    cases left with
    | nil =>
      show (Answer.byte <$> Buffer.next).run (.after before []) = _
      have hend : (before ++ [])[before.length]? = none := by simp
      have hnext : Decode.run Buffer.next (.after before [])
          = (.error (.bufferUnderflow (before ++ []).length), .after before []) := by
        show Buffer.next (.after before []) = _
        simp only [Buffer.next, Buffer.after, hend]
        rfl
      rw [Decode.run_map, hnext, List.length_append]
      rfl
    | cons value rest => exact Buffer.run_next_bind_cons
  | bytes count => exact Buffer.run_nextBytes_bind
  | uint16 => exact hnumber 2 (UInt16.ofNat ∘ Buffer.bigEndian) .uint16
  | uint24 => exact hnumber 3 (UInt32.ofNat ∘ Buffer.bigEndian) .uint32
  | uint32 => exact hnumber 4 (UInt32.ofNat ∘ Buffer.bigEndian) .uint32

end Read

/-! ## §4. One use -/

namespace Buffer

variable {b : Buffer} {a : Access} {used : Except CodecError Answer × Buffer}

/-- A buffer in order has passed the bytes up to its cursor. -/
theorem eq_after (hb : b.cursor ≤ b.length) :
    b = after (b.bytes.take b.cursor) (b.bytes.drop b.cursor) := by
  rw [after, List.take_append_drop, List.length_take_of_le hb]

theorem serves_get (index : Nat) : b.Serves (.get index) (b.use (.get index)) := by
  show b.Serves (.get index) ((b.get index).map .byte, b)
  unfold Buffer.get
  cases hbyte : b.bytes[index]? with
  | none =>
    have hnot : ¬ (Access.get index).IsThere b :=
      Nat.not_lt.mpr (List.getElem?_eq_none_iff.mp hbyte)
    exact .refused hnot
  | some value => exact .got hbyte

theorem serves_set (index : Nat) (value : UInt8) :
    b.Serves (.set index value) (b.use (.set index value)) := by
  show b.Serves (.set index value) (b.put index value)
  unfold put Buffer.set
  by_cases hthere : index < b.length
  · rw [if_pos hthere]
    refine .put hthere fun i => ?_
    have hin : index < b.bytes.length := hthere
    rw [List.getElem?_set, if_pos hin]
    simp only [eq_comm]
  · rw [if_neg hthere]
    exact .refused hthere

theorem serves_read (hb : b.cursor ≤ b.length) (r : Read) :
    b.Serves (.read r) (b.use (.read r)) := by
  have hleft : (b.bytes.drop b.cursor).length = b.length - b.cursor := List.length_drop
  have hpassed : (b.bytes.take b.cursor).length = b.cursor := List.length_take_of_le hb
  have hrun := r.run_after (b.bytes.take b.cursor) (b.bytes.drop b.cursor)
  rw [← eq_after hb, hpassed] at hrun
  show b.Serves (.read r) (r.reading.run b)
  rw [hrun]
  by_cases hthere : r.width ≤ (b.bytes.drop b.cursor).length
  · have hwidth : ((b.bytes.drop b.cursor).take r.width).length = r.width :=
      List.length_take_of_le hthere
    have hmoved : after (b.bytes.take b.cursor ++ (b.bytes.drop b.cursor).take r.width)
          ((b.bytes.drop b.cursor).drop r.width)
        = ⟨b.bytes, b.cursor + ((b.bytes.drop b.cursor).take r.width).length⟩ := by
      rw [after, List.append_assoc, List.take_append_drop, List.take_append_drop,
        List.length_append, hpassed]
    rw [if_pos hthere, hmoved]
    exact .taken (List.take_append_drop _ _).symm (Read.spells_answer hwidth)
  · have hnot : ¬ (Access.read r).IsThere b := by
      show ¬ b.cursor + r.width ≤ b.length
      omega
    rw [if_neg hthere, hleft, Nat.add_sub_cancel' hb]
    exact .refused hnot

/-- **Every use serves.** -/
theorem serves_use (hb : b.cursor ≤ b.length) (a : Access) : b.Serves a (b.use a) := by
  cases a with
  | get index => exact serves_get index
  | set index value => exact serves_set index value
  | read r => exact serves_read hb r

namespace Serves

/-- **A use fails exactly if its bytes are not there.** -/
theorem isOk_iff (hserves : b.Serves a used) (hb : b.cursor ≤ b.length) :
    used.1.isOk = true ↔ a.IsThere b := by
  cases hserves with
  | got hbyte => exact ⟨fun _ => (List.getElem?_eq_some_iff.mp hbyte).1, fun _ => rfl⟩
  | put hthere hbytes => exact ⟨fun _ => hthere, fun _ => rfl⟩
  | taken hleft hspells =>
    refine ⟨fun _ => ?_, fun _ => rfl⟩
    have hlength := congrArg List.length hleft
    rw [List.length_drop, List.length_append, hspells.length_eq] at hlength
    show b.cursor + _ ≤ b.bytes.length
    have hb : b.cursor ≤ b.bytes.length := hb
    omega
  | refused hnot => exact ⟨nofun, fun hthere => absurd hthere hnot⟩

/-- A use that fails changes nothing. -/
theorem eq_of_error (hserves : b.Serves a used) (herror : used.1.isOk = false) :
    used.2 = b := by
  cases hserves with
  | got hbyte => rfl
  | put hthere hbytes => cases herror
  | taken hleft hspells => cases herror
  | refused hnot => rfl

/-- No use changes the length. -/
theorem length_eq (hserves : b.Serves a used) : used.2.length = b.length := by
  cases hserves with
  | got hbyte => rfl
  | put hthere hbytes =>
    rename_i index value bytes
    -- the byte that is written stands where there was one
    have hset : bytes = b.bytes.set index value := by
      apply List.ext_getElem?
      intro i
      have hin : index < b.bytes.length := hthere
      rw [hbytes, List.getElem?_set, if_pos hin]
      simp only [eq_comm]
    show bytes.length = b.bytes.length
    rw [hset, List.length_set]
  | taken hleft hspells => rfl
  | refused hnot => rfl

/-- **No use takes the cursor past the end.** -/
theorem cursor_le (hserves : b.Serves a used) (hb : b.cursor ≤ b.length) :
    used.2.cursor ≤ used.2.length := by
  rw [hserves.length_eq]
  cases hserves with
  | got hbyte => exact hb
  | put hthere hbytes => exact hb
  | taken hleft hspells =>
    have hlength := congrArg List.length hleft
    rw [List.length_drop, List.length_append] at hlength
    show b.cursor + _ ≤ b.bytes.length
    have hb : b.cursor ≤ b.bytes.length := hb
    omega
  | refused hnot => exact hb

end Serves

/-! ## §5. Runs -/

/-- **The cursor stays within the buffer**, whose length never changes. -/
theorem within_uses (accesses : List Access) (hb : b.cursor ≤ b.length) :
    (b.uses accesses).2.length = b.length
      ∧ (b.uses accesses).2.cursor ≤ (b.uses accesses).2.length := by
  induction accesses generalizing b with
  | nil => exact ⟨rfl, hb⟩
  | cons a rest ih =>
    have hserves := serves_use hb a
    obtain ⟨hlength, hcursor⟩ := ih (hserves.cursor_le hb)
    exact ⟨hlength.trans hserves.length_eq, hcursor⟩

end Buffer

/-- The answer to a read, if there is one. -/
def Access.reading? : Access × Except CodecError Answer → Option (Read × Answer)
  | (.read r, .ok answer) => some (r, answer)
  | _ => none

/-- Bytes spell the answers to reads, one after the other. -/
inductive Read.SpellAll : List (Read × Answer) → List UInt8 → Prop where
  | nil : SpellAll [] []
  | cons {r : Read} {answer : Answer} {taken bytes : List UInt8} {rest : List (Read × Answer)}
    (hfirst : r.Spells taken answer) (hrest : SpellAll rest bytes) :
    SpellAll ((r, answer) :: rest) (taken ++ bytes)

/-- **Between writes, the answers spell what the cursor passes.** -/
theorem Buffer.spellAll_uses (accesses : List Access) {b : Buffer} (hb : b.cursor ≤ b.length)
    (hreads : ∀ a ∈ accesses, a.writes = false) :
    (b.uses accesses).2.bytes = b.bytes
      ∧ ∃ passed, Read.SpellAll ((b.uses accesses).1.filterMap Access.reading?) passed
        ∧ b.bytes.take (b.uses accesses).2.cursor = b.bytes.take b.cursor ++ passed := by
  induction accesses generalizing b with
  | nil => exact ⟨rfl, [], .nil, (List.append_nil _).symm⟩
  | cons a rest ih =>
    have hserves := serves_use hb a
    have hnext := ih (hserves.cursor_le hb) fun a' ha' => hreads a' (List.mem_cons_of_mem a ha')
    have hfirst := hreads a List.mem_cons_self
    show ((b.use a).2.uses rest).2.bytes = b.bytes
      ∧ ∃ passed, Read.SpellAll
          (((a, (b.use a).1) :: ((b.use a).2.uses rest).1).filterMap Access.reading?) passed
        ∧ b.bytes.take ((b.use a).2.uses rest).2.cursor = b.bytes.take b.cursor ++ passed
    generalize b.use a = used at hserves hnext ⊢
    cases hserves with
    | got hbyte => exact hnext
    | put hthere hbytes => cases hfirst
    | refused hnot =>
      cases a <;> exact hnext
    | taken hleft hspells =>
      obtain ⟨hbytes, passed, hspelled, hpassed⟩ := hnext
      refine ⟨hbytes, _, .cons hspells hspelled, ?_⟩
      rw [hpassed, List.take_add, hleft, List.take_left, List.append_assoc]

/-- **Any use of a buffer, in any order.**  Make a buffer of some bytes and use it in
    any way.  Its length stays, the cursor is within it, and what is left is the rest.
    Whatever use comes next, it does what it has to do; it fails exactly if the bytes
    that it asks for are not there, and then it changes nothing.  And unless bytes
    were written, they are still the same, and those before the cursor spell the
    answers to the reads, one after the other. -/
theorem accesses_in_order (bytes : List UInt8) (accesses : List Access) :
    let answers := ((Buffer.ofBytes bytes).uses accesses).1
    let b := ((Buffer.ofBytes bytes).uses accesses).2
    b.length = bytes.length ∧ b.cursor ≤ b.length ∧ b.cursor + b.remaining = b.length
      ∧ (∀ a, b.Serves a (b.use a)
        ∧ ((b.use a).1.isOk = true ↔ a.IsThere b)
        ∧ ((b.use a).1.isOk = false → (b.use a).2 = b))
      ∧ ((∀ a ∈ accesses, a.writes = false) →
        b.bytes = bytes
          ∧ Read.SpellAll (answers.filterMap Access.reading?) (bytes.take b.cursor)) := by
  intro answers b
  have hnew : (Buffer.ofBytes bytes).cursor ≤ (Buffer.ofBytes bytes).length := Nat.zero_le _
  obtain ⟨hlength, hcursor⟩ := Buffer.within_uses accesses hnew
  refine ⟨hlength, hcursor, Nat.add_sub_cancel' hcursor, fun a => ?_, fun hreads => ?_⟩
  · have hserves := Buffer.serves_use hcursor a
    exact ⟨hserves, hserves.isOk_iff hcursor, hserves.eq_of_error⟩
  · obtain ⟨hbytes, passed, hspelled, hpassed⟩ := Buffer.spellAll_uses accesses hnew hreads
    have htake : bytes.take b.cursor = passed := hpassed
    rw [htake]
    exact ⟨hbytes, hspelled⟩

/-- A byte, a look back, a number and a read past the end: the two answers that were
    read spell all five bytes. -/
theorem accesses_in_order_of_five_bytes :
    let accesses : List Access := [.read .byte, .get 1, .read .uint32, .read .byte]
    (∀ a ∈ accesses, a.writes = false)
      ∧ Read.SpellAll [(.byte, .byte 0x01), (.uint32, .uint32 0xC624F762)]
        [0x01, 0xC6, 0x24, 0xF7, 0x62] := by
  intro accesses
  have hreads : ∀ a ∈ accesses, a.writes = false := by decide
  obtain ⟨-, -, -, -, hspelled⟩ := accesses_in_order [0x01, 0xC6, 0x24, 0xF7, 0x62] accesses
  exact ⟨hreads, (hspelled hreads).2⟩

end ZWaveHost
