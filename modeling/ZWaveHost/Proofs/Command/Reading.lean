/-
  ZWaveHost.Proofs.Command.Reading — what a reading takes of the bytes that
  are left.

  A buffer is the bytes behind its cursor and those before it
  (`Buffer.after`).  A reading that succeeds moves bytes from one side to the
  other, and one that asks for too many moves none.

  Main facts: when a reading in steps succeeds (`run_bind_eq_ok_iff`), what the
  readings of a buffer take (`run_next_eq_ok_iff`, `run_nextBytes_eq_ok_iff`), and
  how a reading goes on behind them, whether it succeeds or not
  (`run_next_bind_cons`, `run_nextBytes_bind`).
-/
import ZWaveHost.Buffer

namespace ZWaveHost

/-! ## §1. Readings in steps -/

namespace Decode

variable {α β : Type}

/-- A reading in two steps. -/
theorem run_bind (first : Decode α) (next : α → Decode β) (b : Buffer) :
    (first >>= next : Decode β).run b = match first.run b with
      | (.ok a, between) => (next a).run between
      | (.error fault, between) => (.error fault, between) := by
  show (first >>= next : Decode β) b = match first b with
      | (.ok a, between) => next a between
      | (.error fault, between) => (.error fault, between)
  simp only [bind, ExceptT.bind, ExceptT.mk, StateT.bind, ExceptT.bindCont]
  rcases first b with ⟨result, between⟩
  cases result <;> rfl

/-- A value that is made of one that is read. -/
theorem run_map (f : α → β) (reading : Decode α) (b : Buffer) :
    (f <$> reading : Decode β).run b = ((reading.run b).1.map f, (reading.run b).2) := by
  show (f <$> reading : Decode β) b = ((reading b).1.map f, (reading b).2)
  simp only [Functor.map, ExceptT.map, ExceptT.mk, bind, StateT.bind]
  rcases reading b with ⟨result, between⟩
  cases result <;> rfl

/-- **A reading in two steps succeeds** if both steps do, one after the other. -/
theorem run_bind_eq_ok_iff {first : Decode α} {next : α → Decode β} {b b' : Buffer} {result : β} :
    (first >>= next : Decode β).run b = (.ok result, b')
      ↔ ∃ a between, first.run b = (.ok a, between) ∧ (next a).run between = (.ok result, b') := by
  rw [run_bind]
  rcases first.run b with ⟨fault | a, between⟩
  · exact ⟨nofun, fun ⟨_, _, hfirst, _⟩ => nomatch hfirst⟩
  · constructor
    · exact fun hnext => ⟨a, between, rfl, hnext⟩
    · rintro ⟨_, _, hfirst, hnext⟩
      cases hfirst
      exact hnext

/-- What a reading in two steps gives, its second step gives. -/
theorem exists_of_run_bind {first : Decode α} {next : α → Decode β} {b b' : Buffer} {result : β}
    (hrun : (first >>= next : Decode β).run b = (.ok result, b')) :
    ∃ a between, first.run b = (.ok a, between) ∧ (next a).run between = (.ok result, b') :=
  run_bind_eq_ok_iff.mp hrun

theorem exists_of_run_map {f : α → β} {reading : Decode α} {b b' : Buffer} {result : β}
    (hrun : (f <$> reading : Decode β).run b = (.ok result, b')) :
    ∃ a, reading.run b = (.ok a, b') ∧ f a = result := by
  rw [run_map] at hrun
  rcases hread : reading.run b with ⟨_ | a, between⟩
  · rw [hread] at hrun
    cases hrun
  · rw [hread] at hrun
    cases hrun
    exact ⟨a, rfl, rfl⟩

/-- A value that is not read takes nothing. -/
theorem run_pure_eq_ok_iff {a result : α} {b b' : Buffer} :
    (pure a : Decode α).run b = (.ok result, b') ↔ result = a ∧ b' = b := by
  show ((.ok a, b) : Except CodecError α × Buffer) = (.ok result, b') ↔ _
  simp [eq_comm]

/-- Nor does one that is looked up. -/
theorem run_lift_bind_eq_ok_iff {found : Except CodecError α} {next : α → Decode β} {b b' : Buffer}
    {result : β} :
    Decode.run (ExceptT.mk (pure found) >>= next) b = (.ok result, b')
      ↔ ∃ a, found = .ok a ∧ (next a).run b = (.ok result, b') := by
  rw [run_bind]
  show (match (found, b) with
    | (.ok a, between) => (next a).run between
    | (.error fault, between) => (.error fault, between)) = _ ↔ _
  cases found with
  | error fault => exact ⟨nofun, fun ⟨_, hfound, _⟩ => nomatch hfound⟩
  | ok a =>
    constructor
    · exact fun hnext => ⟨a, rfl, hnext⟩
    · rintro ⟨_, hfound, hnext⟩
      cases hfound
      exact hnext

end Decode

/-! ## §2. The bytes that are left -/

namespace Buffer

/-- A buffer of which these bytes have been read, and those are left. -/
def after (before left : List UInt8) : Buffer := ⟨before ++ left, before.length⟩

theorem ofBytes_eq_after (bytes : List UInt8) : ofBytes bytes = after [] bytes := rfl

variable {before left : List UInt8}

/-- **A byte is read** if one is left. -/
theorem run_next_eq_ok_iff {byte : UInt8} {b : Buffer} :
    Decode.run next (after before left) = (.ok byte, b)
      ↔ ∃ rest, left = byte :: rest ∧ b = after (before ++ [byte]) rest := by
  show next (after before left) = (.ok byte, b) ↔ _
  unfold next after
  cases left with
  | nil =>
    have hend : (before ++ [])[before.length]? = none := by simp
    simp only [hend]
    exact ⟨nofun, fun ⟨_, hnone, _⟩ => nomatch hnone⟩
  | cons first rest =>
    simp only [List.getElem?_append_right (Nat.le_refl _), Nat.sub_self, List.getElem?_cons_zero]
    constructor
    · intro hrun
      cases hrun
      exact ⟨rest, rfl, by simp⟩
    · rintro ⟨rest', hleft, rfl⟩
      cases hleft
      simp

/-- **Bytes are read** if so many are left. -/
theorem run_nextBytes_eq_ok_iff {count : Nat} {bytes : List UInt8} {b : Buffer} :
    Decode.run (nextBytes count) (after before left) = (.ok bytes, b)
      ↔ ∃ rest, left = bytes ++ rest ∧ bytes.length = count
        ∧ b = after (before ++ bytes) rest := by
  show nextBytes count (after before left) = (.ok bytes, b) ↔ _
  have hremaining : (after before left).remaining = left.length := by
    simp [after, remaining, length]
  unfold nextBytes
  rw [hremaining]
  by_cases hfew : left.length < count
  · rw [if_pos hfew]
    constructor
    · intro hrun
      cases hrun
    · rintro ⟨rest, rfl, hcount, -⟩
      rw [List.length_append] at hfew
      omega
  · rw [if_neg hfew]
    have hdrop : (after before left).bytes.drop (after before left).cursor = left :=
      List.drop_left
    rw [hdrop]
    constructor
    · intro hrun
      cases hrun
      refine ⟨left.drop count, (List.take_append_drop count left).symm, ?_, ?_⟩
      · exact List.length_take_of_le (Nat.not_lt.mp hfew)
      · simp only [after, List.length_append, List.length_take_of_le (Nat.not_lt.mp hfew),
          List.append_assoc, List.take_append_drop]
    · rintro ⟨rest, rfl, rfl, rfl⟩
      simp only [after, List.take_left, List.append_assoc, List.length_append]

section

variable {β : Type} {result : β} {b : Buffer}

/-- A reading that begins with a byte. -/
theorem run_next_bind_eq_ok_iff {f : UInt8 → Decode β} :
    (next >>= f : Decode β).run (after before left) = (.ok result, b)
      ↔ ∃ byte rest, left = byte :: rest
        ∧ (f byte).run (after (before ++ [byte]) rest) = (.ok result, b) := by
  rw [Decode.run_bind_eq_ok_iff]
  constructor
  · rintro ⟨byte, _, hnext, hrest⟩
    obtain ⟨rest, rfl, rfl⟩ := run_next_eq_ok_iff.mp hnext
    exact ⟨byte, rest, rfl, hrest⟩
  · rintro ⟨byte, rest, rfl, hrest⟩
    exact ⟨byte, _, run_next_eq_ok_iff.mpr ⟨rest, rfl, rfl⟩, hrest⟩

/-- A reading that begins with some bytes. -/
theorem run_nextBytes_bind_eq_ok_iff {count : Nat} {f : List UInt8 → Decode β} :
    (nextBytes count >>= f : Decode β).run (after before left) = (.ok result, b)
      ↔ ∃ bytes rest, left = bytes ++ rest ∧ bytes.length = count
        ∧ (f bytes).run (after (before ++ bytes) rest) = (.ok result, b) := by
  rw [Decode.run_bind_eq_ok_iff]
  constructor
  · rintro ⟨bytes, _, hnext, hrest⟩
    obtain ⟨rest, rfl, hcount, rfl⟩ := run_nextBytes_eq_ok_iff.mp hnext
    exact ⟨bytes, rest, rfl, hcount, hrest⟩
  · rintro ⟨bytes, rest, rfl, hcount, hrest⟩
    exact ⟨bytes, _, run_nextBytes_eq_ok_iff.mpr ⟨rest, rfl, hcount, rfl⟩, hrest⟩

end

/-! ### The course of a reading -/

section

variable {β : Type}

/-- The next byte is taken. -/
theorem run_next_bind_cons {byte : UInt8} {f : UInt8 → Decode β} :
    (next >>= f : Decode β).run (after before (byte :: left))
      = (f byte).run (after (before ++ [byte]) left) := by
  rw [Decode.run_bind, run_next_eq_ok_iff.mpr ⟨left, rfl, rfl⟩]

/-- So many bytes are taken, or none if there are fewer. -/
theorem run_nextBytes_bind {count : Nat} {f : List UInt8 → Decode β} :
    (nextBytes count >>= f : Decode β).run (after before left)
      = if count ≤ left.length then
          (f (left.take count)).run (after (before ++ left.take count) (left.drop count))
        else (.error (.bufferUnderflow (before.length + left.length)), after before left) := by
  by_cases hcount : count ≤ left.length
  · have hrun : Decode.run (nextBytes count) (after before left)
        = (.ok (left.take count), after (before ++ left.take count) (left.drop count)) :=
      run_nextBytes_eq_ok_iff.mpr ⟨left.drop count, (List.take_append_drop count left).symm,
        List.length_take_of_le hcount, rfl⟩
    rw [if_pos hcount, Decode.run_bind, hrun]
  · have hremaining : (after before left).remaining < count := by
      simp only [after, remaining, length, List.length_append]
      omega
    have hrun : Decode.run (nextBytes count) (after before left)
        = (.error (.bufferUnderflow (before.length + left.length)), after before left) := by
      show nextBytes count (after before left) = _
      rw [nextBytes, if_pos hremaining]
      simp only [after, length, List.length_append]
    rw [if_neg hcount, Decode.run_bind, hrun]

/-- The next two bytes are taken as a number. -/
theorem run_nextUInt16_bind_cons {high low : UInt8} {f : UInt16 → Decode β} :
    (nextUInt16 >>= f : Decode β).run (after before (high :: low :: left))
      = (f (UInt16.ofNat (bigEndian [high, low]))).run (after (before ++ [high, low]) left) := by
  have htwo : 2 ≤ (high :: low :: left).length := Nat.le_add_left 2 _
  rw [Decode.run_bind, nextUInt16, run_nextBytes_bind, if_pos htwo]
  rfl

/-- The next byte is taken if there is one. -/
theorem run_next?_bind {f : Option UInt8 → Decode β} :
    (next? >>= f : Decode β).run (after before left)
      = (f left.head?).run (after (before ++ left.take 1) (left.drop 1)) := by
  have hlook : (next? >>= f : Decode β).run (after before left)
      = ((if (after before left).hasNext then next >>= fun byte => pure (some byte)
          else pure none : Decode (Option UInt8)) >>= f : Decode β).run (after before left) := rfl
  rw [hlook]
  cases left with
  | nil =>
    have hend : (after before []).hasNext = false := by simp [after, hasNext, length]
    rw [if_neg (by rw [hend]; exact Bool.false_ne_true)]
    simp
  | cons byte rest =>
    have hmore : (after before (byte :: rest)).hasNext = true := by simp [after, hasNext, length]
    rw [if_pos hmore, Decode.run_bind, run_next_bind_cons]
    rfl

/-- All bytes that are left are taken. -/
theorem run_nextRest_bind {f : List UInt8 → Decode β} :
    (nextRest >>= f : Decode β).run (after before left)
      = (f left).run (after (before ++ left) []) := by
  have hremaining : (after before left).remaining = left.length := by
    simp [after, remaining, length]
  have hrun : (nextRest >>= f : Decode β).run (after before left)
      = (nextBytes (after before left).remaining >>= f : Decode β).run (after before left) := rfl
  rw [hrun, hremaining, run_nextBytes_bind, if_pos (Nat.le_refl _), List.take_length,
    List.drop_length]

end

/-- The first byte that is read is the first byte of the payload. -/
theorem head?_of_next {payload : List UInt8} {byte : UInt8} {unread : Buffer}
    (hrun : Decode.run next (.ofBytes payload) = (.ok byte, unread)) :
    payload.head? = some byte := by
  rw [ofBytes_eq_after, run_next_eq_ok_iff] at hrun
  obtain ⟨rest, rfl, -⟩ := hrun
  rfl

end Buffer

end ZWaveHost
