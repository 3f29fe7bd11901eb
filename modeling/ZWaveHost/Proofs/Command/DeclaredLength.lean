/-
  ZWaveHost.Proofs.Command.DeclaredLength — payloads that say how long a part
  of them is.

  The third byte of an application update is the length of what follows: three
  device types and the command classes, or nothing.  A length of one or two is
  too short for the device types, but they are read all the same.

  Main statement: an update takes exactly what its length byte declares, unless
  that is one or two bytes; then it takes three (`update_fills_length_iff`).
-/
import ZWaveHost.Command
import ZWaveHost.Proofs.Command.Reading

namespace ZWaveHost

namespace ApplicationUpdate

/-! ## §1. The layout of an update -/

/-- What an update holds of the bytes behind its length byte. -/
inductive Content (u : ApplicationUpdate) : List UInt8 → Prop
  /-- No device types, and no command classes. -/
  | nothing (hbasic : u.basicDeviceType = none) (hgeneric : u.genericDeviceType = none)
    (hspecific : u.specificDeviceType = none) (hclasses : u.commandClasses = []) : Content u []
  /-- Three device types and the command classes. -/
  | node {basic generic specific : UInt8} (hbasic : u.basicDeviceType = some basic)
    (hgeneric : u.genericDeviceType = some generic)
    (hspecific : u.specificDeviceType = some specific) :
    Content u (basic :: generic :: specific :: u.commandClasses)

/-- How many bytes are read behind a length byte. -/
def contentLength (length : UInt8) : Nat := if length = 0 then 0 else max 3 length.toNat

theorem contentLength_zero : contentLength 0 = 0 := rfl

theorem contentLength_of_ne {length : UInt8} (hlength : length ≠ 0) :
    contentLength length = max 3 length.toNat :=
  if_neg hlength

/-- **As many bytes are read as the length byte declares**, or three if it
    declares one or two. -/
theorem eq_contentLength_iff {n : Nat} {length : UInt8} :
    n = contentLength length
      ↔ n = length.toNat ∧ length ≠ 1 ∧ length ≠ 2 ∨ n = 3 ∧ (length = 1 ∨ length = 2) := by
  have hone : length = 1 ↔ length.toNat = 1 := UInt8.toNat_inj.symm
  have htwo : length = 2 ↔ length.toNat = 2 := UInt8.toNat_inj.symm
  rw [ne_eq, ne_eq, hone, htwo]
  by_cases hzero : length = 0
  · rw [hzero, contentLength_zero]
    simp
  · have hpos : length.toNat ≠ 0 := fun h => hzero (UInt8.toNat_inj.mp h)
    rw [contentLength_of_ne hzero]
    omega

variable {before left : List UInt8} {u : ApplicationUpdate} {unread : Buffer}

/-- **An update is read** from an event that is known, a node, a length and the
    bytes that go with it. -/
theorem decode_eq_ok_iff :
    ApplicationUpdate.decode.run (.after before left) = (.ok u, unread)
      ↔ ∃ code length content rest, left = code :: u.nodeId :: length :: content ++ rest
        ∧ UpdateEvent.ofByte code = .ok u.event ∧ u.Content content
        ∧ content.length = contentLength length
        ∧ unread = .after (before ++ code :: u.nodeId :: length :: content) rest := by
  unfold ApplicationUpdate.decode
  simp only [Buffer.run_next_bind_eq_ok_iff, Decode.run_lift_bind_eq_ok_iff]
  constructor
  · rintro ⟨code, _, rfl, event, hevent, node, _, rfl, length, left, rfl, hrun⟩
    -- nothing is read behind a length of zero
    by_cases hzero : length = 0
    · rw [if_pos hzero, Decode.run_pure_eq_ok_iff] at hrun
      obtain ⟨rfl, rfl⟩ := hrun
      refine ⟨code, length, [], left, rfl, hevent, .nothing rfl rfl rfl rfl, ?_, ?_⟩
      · rw [hzero]
        rfl
      · simp only [List.append_assoc, List.cons_append, List.nil_append]
    · rw [if_neg hzero] at hrun
      simp only [Buffer.run_next_bind_eq_ok_iff, Buffer.run_nextBytes_bind_eq_ok_iff,
        Decode.run_pure_eq_ok_iff] at hrun
      obtain ⟨basic, _, rfl, generic, _, rfl, specific, _, rfl, classes, rest, rfl, hcount, rfl,
        rfl⟩ := hrun
      refine ⟨code, length, basic :: generic :: specific :: classes, rest, rfl, hevent,
        .node rfl rfl rfl, ?_, ?_⟩
      · simp only [contentLength_of_ne hzero, List.length_cons]
        omega
      · simp only [List.append_assoc, List.cons_append, List.nil_append]
  · rintro ⟨code, length, content, rest, rfl, hevent, hcontent, hlength, rfl⟩
    refine ⟨code, _, rfl, u.event, hevent, u.nodeId, _, rfl, length, _, rfl, ?_⟩
    obtain ⟨event, node, basicType, genericType, specificType, classes⟩ := u
    cases hcontent with
    | nothing hbasic hgeneric hspecific hclasses =>
      have hzero : length = 0 := by
        refine Decidable.byContradiction fun hne => ?_
        rw [contentLength_of_ne hne, List.length_nil] at hlength
        omega
      cases hbasic
      cases hgeneric
      cases hspecific
      cases hclasses
      rw [if_pos hzero, Decode.run_pure_eq_ok_iff]
      refine ⟨rfl, ?_⟩
      simp only [List.append_assoc, List.cons_append, List.nil_append]
      rfl
    | @node basic generic specific hbasic hgeneric hspecific =>
      have hzero : length ≠ 0 := by
        rintro rfl
        cases hlength
      cases hbasic
      cases hgeneric
      cases hspecific
      rw [contentLength_of_ne hzero] at hlength
      simp only [List.length_cons] at hlength
      rw [if_neg hzero]
      simp only [Buffer.run_next_bind_eq_ok_iff, Buffer.run_nextBytes_bind_eq_ok_iff,
        Decode.run_pure_eq_ok_iff]
      refine ⟨basic, _, rfl, generic, _, rfl, specific, _, rfl, classes, rest, rfl, ?_, rfl, ?_⟩
      · omega
      · simp only [List.append_assoc, List.cons_append, List.nil_append]

end ApplicationUpdate

/-! ## §2. All payloads -/

/-- **An update takes exactly the bytes that its length byte declares**, unless
    these are one or two: then it takes three, and the device types are read
    from beyond them.  A payload that is shorter gives no update, and neither
    does one whose event is not known. -/
theorem update_fills_length_iff (payload : List UInt8) (update : ApplicationUpdate)
    (unread : Buffer) :
    ApplicationUpdate.decode.run (.ofBytes payload) = (.ok update, unread)
      ↔ ∃ code length content rest, payload = code :: update.nodeId :: length :: content ++ rest
        ∧ UpdateEvent.ofByte code = .ok update.event
        ∧ update.Content content
        ∧ (content.length = length.toNat ∧ length ≠ 1 ∧ length ≠ 2
          ∨ content.length = 3 ∧ (length = 1 ∨ length = 2))
        ∧ unread = ⟨payload, 3 + content.length⟩ := by
  have hunread (code length : UInt8) (content rest : List UInt8) :
      Buffer.after ([] ++ code :: update.nodeId :: length :: content) rest
        = ⟨code :: update.nodeId :: length :: content ++ rest, 3 + content.length⟩ := by
    simp only [Buffer.after, List.nil_append, List.length_cons]
    congr 1
    omega
  rw [Buffer.ofBytes_eq_after, ApplicationUpdate.decode_eq_ok_iff]
  constructor
  · rintro ⟨code, length, content, rest, rfl, hevent, hcontent, hlength, rfl⟩
    rw [hunread]
    exact ⟨code, length, content, rest, rfl, hevent, hcontent,
      ApplicationUpdate.eq_contentLength_iff.mp hlength, rfl⟩
  · rintro ⟨code, length, content, rest, rfl, hevent, hcontent, hlength, rfl⟩
    rw [← hunread]
    exact ⟨code, length, content, rest, rfl, hevent, hcontent,
      ApplicationUpdate.eq_contentLength_iff.mpr hlength, rfl⟩

/-- An update whose length byte declares one byte takes three. -/
theorem update_need_not_fill_length :
    ¬ ∀ payload update unread,
      ApplicationUpdate.decode.run (.ofBytes payload) = (.ok update, unread) →
        ∃ length, payload[2]? = some length ∧ unread.cursor = 3 + length.toNat := by
  intro hfills
  obtain ⟨length, hlength, hcursor⟩ := hfills [0x84, 3, 1, 0x04, 0x10, 0x01]
    ⟨.nodeInfoReceived, 3, some 0x04, some 0x10, some 0x01, []⟩ _ rfl
  cases hlength
  cases hcursor

end ZWaveHost
