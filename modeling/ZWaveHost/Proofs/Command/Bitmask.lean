/-
  ZWaveHost.Proofs.Command.Bitmask — sets of ids as bit masks.

  The ids of a mask are computed byte by byte in words of sixteen bits.  Here the
  bits are counted through the whole mask: an id is the place of its bit, counted
  from one (`idsFromBitmask_eq`).  A mask of at most 8191 bytes has no place that
  leaves a word, so its ids come in ascending order and each stands for its bit.

  Main statement: the ids of a mask are those of its set bits, the mask of a set
  of ids gives back the set, and the two commands that carry a mask have the ids
  of theirs (`ids_of_set_bits`).
-/
import Mathlib.Data.List.Induction
import Mathlib.Data.Nat.Bitwise
import ZWaveHost.Command
import ZWaveHost.Proofs.Command.Reading

namespace ZWaveHost

/-! ## §1. The set bits of a mask -/

namespace Bitmask

/-- Whether a bit of a mask is set, the bits being counted through all bytes from
    the lowest bit of the first. -/
def testBit (mask : List UInt8) (place : Nat) : Bool :=
  mask[place / 8]?.any fun byte => byte.toNat.testBit (place % 8)

/-- The places of the set bits, in ascending order. -/
def setBits (mask : List UInt8) : List Nat :=
  (List.range (8 * mask.length)).filter (testBit mask)

variable {mask : List UInt8} {byte : UInt8} {place : Nat}

theorem lt_of_testBit (hset : testBit mask place = true) : place < 8 * mask.length := by
  obtain ⟨byte, hbyte, -⟩ := (Option.any_eq_true _ _).mp hset
  have hindex : place / 8 < mask.length := (List.getElem?_eq_some_iff.mp hbyte).1
  omega

theorem testBit_take {count : Nat} (hplace : place < 8 * count) :
    testBit (mask.take count) place = testBit mask place := by
  have hindex : place / 8 < count := by omega
  rw [testBit, testBit, List.getElem?_take_of_lt hindex]

theorem mem_setBits : place ∈ setBits mask ↔ testBit mask place = true := by
  rw [setBits, List.mem_filter, List.mem_range]
  exact ⟨And.right, fun hset => ⟨lt_of_testBit hset, hset⟩⟩

theorem testBit_append_left (hplace : place < 8 * mask.length) :
    testBit (mask ++ [byte]) place = testBit mask place := by
  have hindex : place / 8 < mask.length := by omega
  rw [testBit, testBit, List.getElem?_append_left hindex]

theorem testBit_append_right (hplace : place < 8) :
    testBit (mask ++ [byte]) (8 * mask.length + place) = byte.toNat.testBit place := by
  have hindex : (8 * mask.length + place) / 8 = mask.length := by omega
  have hbit : (8 * mask.length + place) % 8 = place := by omega
  rw [testBit, hindex, hbit, List.getElem?_concat_length]
  rfl

/-- A further byte adds its own set bits behind the others. -/
theorem setBits_concat : setBits (mask ++ [byte])
    = setBits mask ++ ((List.range 8).filter byte.toNat.testBit).map (8 * mask.length + ·) := by
  have hlength : 8 * (mask ++ [byte]).length = 8 * mask.length + 8 := by
    rw [List.length_append, List.length_singleton]
    omega
  rw [setBits, hlength, List.range_add, List.filter_append, List.filter_map]
  congr 1
  · refine List.filter_congr fun place hplace => ?_
    exact testBit_append_left (List.mem_range.mp hplace)
  · congr 1
    refine List.filter_congr fun place hplace => ?_
    exact testBit_append_right (List.mem_range.mp hplace)

end Bitmask

/-- The id of a bit, by the byte it is in and by its place. -/
theorem id_eq_place (base : UInt16) (index bit : Nat) :
    base + UInt16.ofNat index * 8 + UInt16.ofNat bit = base + UInt16.ofNat (8 * index + bit) := by
  rw [UInt16.ofNat_add, UInt16.ofNat_mul, UInt16.mul_comm, UInt16.add_assoc]
  rfl

/-- **The ids of a mask** are the base and the places of its set bits. -/
theorem idsFromBitmask_eq (base : UInt16) (mask : List UInt8) :
    idsFromBitmask base mask = (Bitmask.setBits mask).map fun place => base + UInt16.ofNat place := by
  -- at the end of the mask, where a further byte leaves the numbers of the others alone
  induction mask using List.reverseRecOn with
  | nil => rfl
  | append_singleton mask byte ih =>
    have hconcat : idsFromBitmask base (mask ++ [byte]) = idsFromBitmask base mask
        ++ ((List.range 8).filter byte.toNat.testBit).map fun bit =>
          base + UInt16.ofNat mask.length * 8 + UInt16.ofNat bit := by
      simp only [idsFromBitmask, List.zipIdx_append, List.flatMap_append]
      simp
    rw [hconcat, ih, Bitmask.setBits_concat, List.map_append, List.map_map]
    congr 2
    funext bit
    exact id_eq_place base mask.length bit

/-! ## §2. Masks within words -/

/-- No id in a mask of at most 8191 bytes leaves a word. -/
theorem toNat_id {place : Nat} (hplace : place < 8 * 8191) :
    (1 + UInt16.ofNat place).toNat = 1 + place := by
  rw [UInt16.toNat_add, UInt16.toNat_ofNat']
  show (1 + place % 2 ^ 16) % 2 ^ 16 = 1 + place
  omega

section

variable {mask : List UInt8} (hmask : mask.length ≤ 8191)

include hmask

/-- **The ids ascend.** -/
theorem pairwise_idsFromBitmask : (idsFromBitmask 1 mask).Pairwise (· < ·) := by
  have hplaces : (Bitmask.setBits mask).Pairwise (· < ·) := List.pairwise_lt_range.filter _
  rw [idsFromBitmask_eq, List.pairwise_map]
  refine hplaces.imp_of_mem ?_
  intro place place' hmem hmem' hlt
  have hplace := Bitmask.lt_of_testBit (Bitmask.mem_setBits.mp hmem)
  have hplace' := Bitmask.lt_of_testBit (Bitmask.mem_setBits.mp hmem')
  rw [UInt16.lt_iff_toNat_lt, toNat_id (by omega), toNat_id (by omega)]
  omega

/-- **An id is in a mask** exactly if its bit is set. -/
theorem mem_idsFromBitmask {n : UInt16} :
    n ∈ idsFromBitmask 1 mask ↔ 1 ≤ n ∧ Bitmask.testBit mask (n.toNat - 1) = true := by
  rw [idsFromBitmask_eq, List.mem_map, UInt16.le_iff_toNat_le]
  show _ ↔ 1 ≤ n.toNat ∧ _
  constructor
  · rintro ⟨place, hmem, rfl⟩
    have hset := Bitmask.mem_setBits.mp hmem
    have hplace := Bitmask.lt_of_testBit hset
    rw [toNat_id (by omega), Nat.add_sub_cancel_left]
    exact ⟨Nat.le_add_right 1 place, hset⟩
  · -- a set bit lies within the mask, so no other place has its id
    rintro ⟨hpos, hset⟩
    have hplace := Bitmask.lt_of_testBit hset
    refine ⟨n.toNat - 1, Bitmask.mem_setBits.mpr hset, ?_⟩
    rw [← UInt16.toNat_inj, toNat_id (by omega)]
    omega

end

/-! ## §3. The mask of a set of ids -/

/-- Lists of ids in ascending order are equal if they have the same members. -/
theorem eq_of_ascending {ids ids' : List UInt16} (hids : ids.Pairwise (· < ·))
    (hids' : ids'.Pairwise (· < ·)) (hmem : ∀ n, n ∈ ids ↔ n ∈ ids') : ids = ids' := by
  have hnodup : ids.Nodup := hids.imp UInt16.ne_of_lt
  have hnodup' : ids'.Nodup := hids'.imp UInt16.ne_of_lt
  refine List.Perm.eq_of_pairwise ?_ hids hids'
    ((List.perm_ext_iff_of_nodup hnodup hnodup').mpr hmem)
  intro n n' _ _ hlt hgt
  exact absurd hgt (UInt16.lt_asymm hlt)

namespace Bitmask

/-- The mask of so many bytes that has the bits of some ids set. -/
def ofIds (length : Nat) (ids : List UInt16) : List UInt8 :=
  (List.range length).map fun index =>
    UInt8.ofNat (Nat.ofBits fun bit : Fin 8 => decide (UInt16.ofNat (1 + 8 * index + bit) ∈ ids))

theorem length_ofIds (length : Nat) (ids : List UInt16) : (ofIds length ids).length = length := by
  rw [ofIds, List.length_map, List.length_range]

theorem testBit_ofIds {length place : Nat} {ids : List UInt16} (hplace : place < 8 * length) :
    testBit (ofIds length ids) place = decide (UInt16.ofNat (1 + place) ∈ ids) := by
  have hindex : place / 8 < length := by omega
  have hbits (f : Fin 8 → Bool) : (UInt8.ofNat (Nat.ofBits f)).toNat = Nat.ofBits f := by
    rw [UInt8.toNat_ofNat', Nat.mod_eq_of_lt (Nat.ofBits_lt_two_pow f)]
  rw [testBit, ofIds, List.getElem?_map, List.getElem?_range hindex]
  show (UInt8.ofNat (Nat.ofBits _)).toNat.testBit (place % 8) = _
  rw [hbits, Nat.testBit_ofBits_lt _ _ (Nat.mod_lt _ (by omega))]
  congr 3
  show 1 + 8 * (place / 8) + place % 8 = 1 + place
  omega

end Bitmask

/-- **The mask of a set of ids** gives back the set. -/
theorem idsFromBitmask_ofIds {length : Nat} (hlength : length ≤ 8191) {ids : List UInt16}
    (hids : ids.Pairwise (· < ·)) (hrange : ∀ n ∈ ids, 1 ≤ n.toNat ∧ n.toNat ≤ 8 * length) :
    idsFromBitmask 1 (Bitmask.ofIds length ids) = ids := by
  have hmask : (Bitmask.ofIds length ids).length ≤ 8191 := by
    rw [Bitmask.length_ofIds]
    exact hlength
  refine eq_of_ascending (pairwise_idsFromBitmask hmask) hids fun n => ?_
  rw [mem_idsFromBitmask hmask, UInt16.le_iff_toNat_le]
  show 1 ≤ n.toNat ∧ _ ↔ _
  constructor
  · rintro ⟨hpos, hset⟩
    have hplace := Bitmask.lt_of_testBit hset
    rw [Bitmask.length_ofIds] at hplace
    rw [Bitmask.testBit_ofIds hplace, Nat.add_sub_cancel' hpos, UInt16.ofNat_toNat] at hset
    exact of_decide_eq_true hset
  · intro hmem
    obtain ⟨hpos, hle⟩ := hrange n hmem
    refine ⟨hpos, ?_⟩
    rw [Bitmask.testBit_ofIds (by omega), Nat.add_sub_cancel' hpos, UInt16.ofNat_toNat]
    exact decide_eq_true hmem

/-! ## §4. The commands that carry a mask -/

namespace InitData

variable {before left : List UInt8} {d : InitData} {unread : Buffer}

/-- **Initial data are read** from a version, flags, the length of the node list,
    a node list of this length, and two bytes about the chip. -/
theorem decode_eq_ok_iff :
    InitData.decode.run (.after before left) = (.ok d, unread)
      ↔ ∃ flags mask rest, left = d.apiVersion :: flags :: nodeBitmaskLength
            :: (mask ++ d.chipType :: d.chipVersion :: rest)
        ∧ mask.length = nodeBitmaskLength.toNat
        ∧ d.capabilities = InitCapability.ofByte flags ∧ d.nodes = idsFromBitmask 1 mask
        ∧ unread = .after (before ++ d.apiVersion :: flags :: nodeBitmaskLength
            :: (mask ++ [d.chipType, d.chipVersion])) rest := by
  unfold InitData.decode
  simp only [Buffer.run_next_bind_eq_ok_iff]
  constructor
  · rintro ⟨version, _, rfl, flags, _, rfl, length, left, rfl, hrun⟩
    -- a node list of another length fails before it is read
    by_cases hlength : length ≠ nodeBitmaskLength
    · rw [if_pos hlength] at hrun
      cases hrun
    · rw [if_neg hlength] at hrun
      simp only [Buffer.run_next_bind_eq_ok_iff, Buffer.run_nextBytes_bind_eq_ok_iff,
        Decode.run_pure_eq_ok_iff] at hrun
      obtain ⟨mask, _, rfl, hcount, type, _, rfl, chip, rest, rfl, rfl, rfl⟩ := hrun
      obtain rfl := Decidable.not_not.mp hlength
      refine ⟨flags, mask, rest, rfl, hcount, rfl, rfl, ?_⟩
      simp only [List.append_assoc, List.cons_append, List.nil_append]
  · rintro ⟨flags, mask, rest, rfl, hcount, hcapabilities, hnodes, rfl⟩
    refine ⟨d.apiVersion, _, rfl, flags, _, rfl, nodeBitmaskLength, _, rfl, ?_⟩
    rw [if_neg (not_not_intro rfl)]
    simp only [Buffer.run_next_bind_eq_ok_iff, Buffer.run_nextBytes_bind_eq_ok_iff,
      Decode.run_pure_eq_ok_iff]
    refine ⟨mask, _, rfl, hcount, d.chipType, _, rfl, d.chipVersion, rest, rfl, ?_, ?_⟩
    · rw [← hcapabilities, ← hnodes]
    · simp only [List.append_assoc, List.cons_append, List.nil_append]

variable {p : List UInt8}

/-- Initial data are read from a payload of 34 bytes or more whose third byte is
    the length of the node list. -/
theorem exists_decode_iff :
    (∃ d unread, InitData.decode.run (.ofBytes p) = (.ok d, unread))
      ↔ 34 ≤ p.length ∧ p[2]? = some nodeBitmaskLength := by
  simp only [Buffer.ofBytes_eq_after, decode_eq_ok_iff]
  constructor
  · rintro ⟨d, _, flags, mask, rest, rfl, hcount, -⟩
    have hmask : mask.length = 29 := hcount
    refine ⟨?_, rfl⟩
    simp only [List.length_cons, List.length_append]
    omega
  · rintro ⟨hlength, hbyte⟩
    match p, hlength, hbyte with
    | version :: flags :: length :: left, hlength, hbyte =>
      obtain rfl : length = nodeBitmaskLength := Option.some.inj hbyte
      have hleft : 31 ≤ left.length := by
        simp only [List.length_cons] at hlength
        omega
      have hchip : 2 ≤ (left.drop 29).length := by
        rw [List.length_drop]
        omega
      match hdrop : left.drop 29, hchip with
      | type :: chip :: rest, _ =>
        refine ⟨⟨version, InitCapability.ofByte flags, idsFromBitmask 1 (left.take 29), type, chip⟩, _, flags,
          left.take 29, rest, ?_, List.length_take_of_le (by omega), rfl, rfl, rfl⟩
        rw [← hdrop, List.take_append_drop]

/-- The nodes are the ids of the node list, which lies behind the third byte. -/
theorem nodes_eq (hrun : InitData.decode.run (.ofBytes p) = (.ok d, unread)) :
    d.nodes = idsFromBitmask 1 ((p.drop 3).take 29) := by
  rw [Buffer.ofBytes_eq_after, decode_eq_ok_iff] at hrun
  obtain ⟨flags, mask, rest, rfl, hcount, -, hnodes, -⟩ := hrun
  have hmask : mask.length = 29 := hcount
  rw [hnodes]
  show _ = idsFromBitmask 1 ((mask ++ _).take 29)
  rw [← hmask, List.take_left]

/-- The nodes of initial data ascend, and they are the ids up to 232 whose bits
    are set behind the third byte. -/
theorem nodes_of_set_bits (hrun : InitData.decode.run (.ofBytes p) = (.ok d, unread)) :
    d.nodes.Pairwise (· < ·)
      ∧ ∀ n, n ∈ d.nodes
        ↔ 1 ≤ n ∧ n ≤ 232 ∧ Bitmask.testBit (p.drop 3) (n.toNat - 1) = true := by
  have hlength : ((p.drop 3).take 29).length ≤ 29 := List.length_take_le _ _
  have hmask : ((p.drop 3).take 29).length ≤ 8191 := by omega
  rw [nodes_eq hrun]
  refine ⟨pairwise_idsFromBitmask hmask, fun n => ?_⟩
  rw [mem_idsFromBitmask hmask, UInt16.le_iff_toNat_le, UInt16.le_iff_toNat_le]
  show 1 ≤ n.toNat ∧ _ ↔ 1 ≤ n.toNat ∧ n.toNat ≤ 232 ∧ _
  refine and_congr_right fun hpos => ?_
  constructor
  · intro hset
    have hplace := Bitmask.lt_of_testBit hset
    rw [Bitmask.testBit_take (by omega)] at hset
    exact ⟨by omega, hset⟩
  · rintro ⟨hle, hset⟩
    rw [Bitmask.testBit_take (by omega)]
    exact hset

end InitData

namespace Capabilities

/-- Capabilities are read from any payload of eight bytes or more, and the ids
    that are supported are those of all the rest. -/
theorem exists_decode {p : List UInt8} (hlength : 8 ≤ p.length) :
    ∃ c unread, Capabilities.decode.run (.ofBytes p) = (.ok c, unread)
      ∧ c.supportedCommands = idsFromBitmask 1 (p.drop 8) := by
  match p, hlength with
  | major :: minor :: b2 :: b3 :: b4 :: b5 :: b6 :: b7 :: mask, _ =>
    rw [Buffer.ofBytes_eq_after]
    unfold Capabilities.decode
    simp only [Buffer.run_next_bind_cons, Buffer.run_nextUInt16_bind_cons, Buffer.run_nextRest_bind]
    exact ⟨_, _, rfl, rfl⟩

/-- An id is supported exactly if its bit is set, where the ids come from a mask. -/
theorem supports_iff {c : Capabilities} {mask : List UInt8} (hmask : mask.length ≤ 8191)
    (hids : c.supportedCommands = idsFromBitmask 1 mask) (id : UInt8) :
    c.supports id = true ↔ 1 ≤ id ∧ Bitmask.testBit mask (id.toNat - 1) = true := by
  rw [supports, List.contains_iff_mem, hids, mem_idsFromBitmask hmask, UInt8.toNat_toUInt16,
    UInt16.le_iff_toNat_le, UInt8.le_iff_toNat_le, UInt8.toNat_toUInt16]
  rfl

end Capabilities

/-! ## §5. All masks -/

/-- **The ids of a mask are those of its set bits.**  The ids of any mask of at
    most 8191 bytes ascend, an id is among them exactly if its bit is set, and no
    id that a bit could stand for leaves a word of sixteen bits.  So the mask that
    a set of ids is written as gives back the set.  Initial data are read exactly
    from payloads of 34 bytes or more whose third byte is 29, and their nodes are
    the ids of the 29 bytes behind it; the capabilities in any payload that a
    frame can hold support exactly the ids whose bits are set behind the first
    eight bytes. -/
theorem ids_of_set_bits :
    (∀ mask : List UInt8, mask.length ≤ 8191 →
      (idsFromBitmask 1 mask).Pairwise (· < ·)
        ∧ (∀ n, n ∈ idsFromBitmask 1 mask
          ↔ 1 ≤ n ∧ Bitmask.testBit mask (n.toNat - 1) = true)
        ∧ ∀ index bit : Nat, index < mask.length → bit < 8 →
          (1 + UInt16.ofNat index * 8 + UInt16.ofNat bit).toNat = 1 + index * 8 + bit)
    ∧ (∀ length ≤ 8191, ∀ ids : List UInt16, ids.Pairwise (· < ·) →
      (∀ n ∈ ids, 1 ≤ n.toNat ∧ n.toNat ≤ 8 * length) →
        idsFromBitmask 1 (Bitmask.ofIds length ids) = ids)
    ∧ (∀ p : List UInt8,
      ((∃ d unread, InitData.decode.run (.ofBytes p) = (.ok d, unread))
          ↔ 34 ≤ p.length ∧ p[2]? = some 29)
        ∧ ∀ d unread, InitData.decode.run (.ofBytes p) = (.ok d, unread) →
          d.nodes.Pairwise (· < ·)
            ∧ ∀ n, n ∈ d.nodes
              ↔ 1 ≤ n ∧ n ≤ 232 ∧ Bitmask.testBit (p.drop 3) (n.toNat - 1) = true)
    ∧ (∀ p : List UInt8, 8 ≤ p.length → p.length ≤ 252 →
      ∃ c unread, Capabilities.decode.run (.ofBytes p) = (.ok c, unread)
        ∧ ∀ id, c.supports id = true
          ↔ 1 ≤ id ∧ Bitmask.testBit (p.drop 8) (id.toNat - 1) = true) := by
  refine ⟨?_, ?_, ?_, ?_⟩
  · intro mask hmask
    refine ⟨pairwise_idsFromBitmask hmask, fun n => mem_idsFromBitmask hmask, ?_⟩
    intro index bit hindex hbit
    rw [id_eq_place, toNat_id (by omega)]
    omega
  · intro length hlength ids hids hrange
    exact idsFromBitmask_ofIds hlength hids hrange
  · intro p
    exact ⟨InitData.exists_decode_iff, fun _ _ hrun => InitData.nodes_of_set_bits hrun⟩
  · intro p hlength hframe
    obtain ⟨c, unread, hrun, hids⟩ := Capabilities.exists_decode hlength
    have hmask : (p.drop 8).length ≤ 8191 := by
      rw [List.length_drop]
      omega
    exact ⟨c, unread, hrun, Capabilities.supports_iff hmask hids⟩

/-- Three ids in a mask of two bytes, the nodes of a payload of initial data, and
    the eight command ids that a payload of capabilities supports. -/
theorem ids_of_set_bits_of_three :
    (([0x05, 0x80] : List UInt8).length ≤ 8191 ∧ (16 : UInt16) ∈ idsFromBitmask 1 [0x05, 0x80])
    ∧ (([1, 3, 16] : List UInt16).Pairwise (· < ·)
      ∧ idsFromBitmask 1 (Bitmask.ofIds 2 [1, 3, 16]) = [1, 3, 16])
    ∧ (∃ d unread, InitData.decode.run
        (.ofBytes ([0x08, 0x05, 29, 0x03] ++ List.replicate 27 0 ++ [0x01, 0x07, 0x00]))
          = (.ok d, unread)
        ∧ 225 ∈ d.nodes ∧ 226 ∉ d.nodes)
    ∧ ∃ c unread, Capabilities.decode.run
        (.ofBytes [0x01, 0x02, 0x00, 0x86, 0x00, 0x01, 0x00, 0x5A, 0xFE, 0x01]) = (.ok c, unread)
        ∧ c.supports 0x08 = true ∧ c.supports 0x01 = false := by
  obtain ⟨hmasks, hsets, hdata, hcapabilities⟩ := ids_of_set_bits
  have hascending : ([1, 3, 16] : List UInt16).Pairwise (· < ·) := by decide
  refine ⟨⟨by decide, ?_⟩, ⟨hascending, ?_⟩, ?_, ?_⟩
  · exact ((hmasks [0x05, 0x80] (by decide)).2.1 16).mpr (by decide)
  · exact hsets 2 (by decide) [1, 3, 16] hascending (by simp)
  · obtain ⟨hread, hnodes⟩ := hdata
      ([0x08, 0x05, 29, 0x03] ++ List.replicate 27 0 ++ [0x01, 0x07, 0x00])
    obtain ⟨d, unread, hrun⟩ := hread.mpr (by decide)
    obtain ⟨-, hmem⟩ := hnodes d unread hrun
    refine ⟨d, unread, hrun, (hmem 225).mpr (by decide), fun hin => ?_⟩
    exact absurd ((hmem 226).mp hin) (by decide)
  · obtain ⟨c, unread, hrun, hsupports⟩ := hcapabilities
      [0x01, 0x02, 0x00, 0x86, 0x00, 0x01, 0x00, 0x5A, 0xFE, 0x01] (by decide) (by decide)
    refine ⟨c, unread, hrun, (hsupports 0x08).mpr (by decide), ?_⟩
    exact Bool.eq_false_iff.mpr fun hin => absurd ((hsupports 0x01).mp hin) (by decide)

end ZWaveHost
