/-
  ZWaveHost.Proofs.Port.Listing — the devices of a machine, in their order.

  A device is a file directly in the device directory whose name is that of a
  family and something behind it.  Its sort key is made of the family, the number
  behind it and the name, so different devices have different keys
  (`eq_of_sortKey_eq`), and where the ports stand before they are sorted does not
  matter.

  Main statement: whatever is reported, in whatever order, every device is listed
  once, modems before adapters, by number and then by the bytes of the name
  (`devices_listed_in_order`).
-/
import Mathlib.Data.List.Sort
import ZWaveHost.Port.Serial
import ZWaveHost.Proofs.Text.ByteOrder

namespace ZWaveHost.SerialPort

/-! ## §1. What the names say -/

/-- What follows a beginning, and nothing else, stands behind it. -/
theorem afterStart?_eq_some_iff {start cs rest : List Char} :
    afterStart? start cs = some rest ↔ cs = start ++ rest := by
  fun_induction afterStart? start cs with
  | case1 cs => simp
  | case2 s start cs ih => rw [ih, List.cons_append, List.cons.injEq, eq_self, true_and]
  | case3 s start c cs hne =>
    constructor
    · nofun
    · intro heq
      exact absurd (List.cons.inj heq).1.symm hne
  | case4 => simp

/-- The last part of a path is what stands behind its last slash. -/
theorem baseName_append (path : List Char) {base : List Char} (hbase : '/' ∉ base) :
    baseName (path ++ '/' :: base) = base := by
  have hkept : ∀ c ∈ base.reverse, decide (c ≠ '/') = true := by
    intro c hc
    refine decide_eq_true ?_
    rintro rfl
    exact hbase (List.mem_reverse.mp hc)
  have hstop : (['/'] ++ path.reverse).takeWhile (fun c => decide (c ≠ '/')) = [] := by simp
  rw [baseName, List.reverse_append, List.reverse_cons, List.append_assoc,
    List.takeWhile_append_of_pos hkept, hstop, List.append_nil, List.reverse_reverse]

/-- A text is a number below 2^64: decimal digits, perhaps after a plus sign. -/
def IsNumber (text : List Char) (n : Nat) : Prop :=
  ∃ digits, (text = digits ∨ text = '+' :: digits) ∧ digits ≠ []
    ∧ (∀ c ∈ digits, c.isDigit = true) ∧ Nat.ofDigitChars 10 digits 0 = n ∧ n < UInt64.size

theorem runNumber?_eq_some_iff {digits : List Char} {n : Nat} :
    runNumber? digits = some n ↔ digits ≠ [] ∧ (∀ c ∈ digits, c.isDigit = true)
      ∧ Nat.ofDigitChars 10 digits 0 = n ∧ n < UInt64.size := by
  have hvalue : runNumber? digits
      = if digits.isEmpty || !digits.all Char.isDigit then none
        else if Nat.ofDigitChars 10 digits 0 < UInt64.size then
          some (Nat.ofDigitChars 10 digits 0)
        else none := rfl
  have hrun : (digits.isEmpty || !digits.all Char.isDigit) = false
      ↔ digits ≠ [] ∧ ∀ c ∈ digits, c.isDigit = true := by
    simp [List.isEmpty_eq_false_iff]
  rw [hvalue]
  by_cases hother : (digits.isEmpty || !digits.all Char.isDigit) = true
  · rw [if_pos hother]
    refine ⟨nofun, ?_⟩
    rintro ⟨hne, hdigits, -⟩
    exact Bool.noConfusion (hother.symm.trans (hrun.mpr ⟨hne, hdigits⟩))
  · obtain ⟨hne, hdigits⟩ := hrun.mp (Bool.eq_false_iff.mpr hother)
    rw [if_neg hother, Option.ite_none_right_eq_some, Option.some_inj]
    constructor
    · rintro ⟨hlt, rfl⟩
      exact ⟨hne, hdigits, rfl, hlt⟩
    · rintro ⟨-, -, rfl, hlt⟩
      exact ⟨hlt, rfl⟩

theorem unsigned_eq {text : List Char} (hsign : text.head? ≠ some '+') : unsigned text = text := by
  unfold unsigned
  split
  · exact absurd rfl hsign
  · rfl

/-- **The numbers that are read** are those that the text is. -/
theorem number?_eq_some_iff {text : List Char} {n : Nat} :
    number? text = some n ↔ IsNumber text n := by
  rw [number?, runNumber?_eq_some_iff]
  constructor
  · intro hrun
    refine ⟨unsigned text, ?_, hrun⟩
    unfold unsigned
    split
    · exact .inr rfl
    · exact .inl rfl
  · rintro ⟨digits, htext, hne, hdigits, hvalue⟩
    have hsame : unsigned text = digits := by
      rcases htext with rfl | rfl
      · -- digits do not begin with a sign
        refine unsigned_eq fun hplus => ?_
        have hsign := hdigits '+' (List.mem_of_mem_head? hplus)
        exact absurd hsign (by decide)
      · rfl
    rw [hsame]
    exact ⟨hne, hdigits, hvalue⟩

/-- The number by which a device is listed: the one that follows its family, or the
    greatest there is. -/
inductive ListedBy (text : List Char) : Nat → Prop where
  | number {n : Nat} (hnumber : IsNumber text n) : ListedBy text n
  | none (hnone : ∀ n, ¬ IsNumber text n) : ListedBy text (UInt64.size - 1)

theorem listedBy_number? (text : List Char) :
    ListedBy text ((number? text).getD (UInt64.size - 1)) := by
  cases hnumber : number? text with
  | some n => exact .number (number?_eq_some_iff.mp hnumber)
  | none =>
    refine .none fun n hn => ?_
    rw [number?_eq_some_iff.mpr hn] at hnumber
    cases hnumber

/-! ## §2. Devices -/

/-- The name of a device: it lies in the device directory, and begins with the name
    of the family of this rank. -/
def IsDevice (rank : Nat) (rest : List Char) (name : String) : Prop :=
  ∃ family, families[rank]? = some family ∧ '/' ∉ rest
    ∧ name = deviceDirectory ++ (family ++ String.ofList rest)

/-- Whether a name is that of a device. -/
def isDevice (name : String) : Bool :=
  (afterStart? deviceDirectory.toList name.toList).any fun file =>
    hasFamily (String.ofList file) && decide ('/' ∉ file)

/-- There are two families. -/
theorem families_getElem? {rank : Nat} {family : String} :
    families[rank]? = some family
      ↔ rank = 0 ∧ family = "ttyACM" ∨ rank = 1 ∧ family = "ttyUSB" := by
  match rank with
  | 0 => simp [families, eq_comm]
  | 1 => simp [families, eq_comm]
  | _ + 2 => simp [families]

theorem hasFamily_iff {file : List Char} :
    hasFamily (String.ofList file) = true
      ↔ ∃ (rank : Nat) (family : String) (rest : List Char), families[rank]? = some family
        ∧ file = family.toList ++ rest := by
  rw [hasFamily, List.any_eq_true, String.toList_ofList]
  constructor
  · rintro ⟨family, hfamily, hstart⟩
    obtain ⟨rest, hrest⟩ := Option.isSome_iff_exists.mp hstart
    obtain ⟨rank, hrank⟩ := List.getElem?_of_mem hfamily
    exact ⟨rank, family, rest, hrank, afterStart?_eq_some_iff.mp hrest⟩
  · rintro ⟨rank, family, rest, hrank, hfile⟩
    refine ⟨family, List.mem_of_getElem? hrank, ?_⟩
    rw [afterStart?_eq_some_iff.mpr hfile]
    rfl

theorem slash_not_mem_family {rank : Nat} {family : String}
    (hfamily : families[rank]? = some family) : '/' ∉ family.toList := by
  rcases families_getElem?.mp hfamily with ⟨-, rfl⟩ | ⟨-, rfl⟩ <;> decide

theorem isDevice_iff {name : String} :
    isDevice name = true ↔ ∃ rank rest, IsDevice rank rest name := by
  rw [isDevice, Option.any_eq_true]
  constructor
  · rintro ⟨file, hfile, htests⟩
    rw [Bool.and_eq_true, hasFamily_iff, decide_eq_true_eq] at htests
    obtain ⟨⟨rank, family, rest, hfamily, rfl⟩, hslash⟩ := htests
    refine ⟨rank, rest, family, hfamily, fun hrest => hslash (List.mem_append_right _ hrest), ?_⟩
    apply String.toList_inj.mp
    rw [afterStart?_eq_some_iff.mp hfile, String.toList_append, String.toList_append,
      String.toList_ofList]
  · rintro ⟨rank, rest, family, hfamily, hslash, rfl⟩
    refine ⟨family.toList ++ rest, ?_, ?_⟩
    · rw [afterStart?_eq_some_iff, String.toList_append, String.toList_append,
        String.toList_ofList]
    · rw [Bool.and_eq_true, hasFamily_iff, decide_eq_true_eq, List.mem_append]
      exact ⟨⟨rank, family, rest, hfamily, rfl⟩,
        not_or.mpr ⟨slash_not_mem_family hfamily, hslash⟩⟩

/-! ## §3. Keys -/

/-- **The key of a device**: its family, the number behind it, and its own name. -/
theorem sortKey_eq {rank : Nat} {family : String} {rest : List Char}
    (hfamily : families[rank]? = some family) (hslash : '/' ∉ rest) :
    sortKey (deviceDirectory ++ (family ++ String.ofList rest))
      = ⟨rank, (number? rest).getD (UInt64.size - 1), family ++ String.ofList rest⟩ := by
  have hbase : baseName (deviceDirectory ++ (family ++ String.ofList rest)).toList
      = family.toList ++ rest := by
    have hnone : '/' ∉ family.toList ++ rest := by
      rw [List.mem_append]
      exact not_or.mpr ⟨slash_not_mem_family hfamily, hslash⟩
    rw [String.toList_append, String.toList_append, String.toList_ofList]
    exact baseName_append "/dev".toList hnone
  have hname : String.ofList (family.toList ++ rest) = family ++ String.ofList rest := by
    rw [String.ofList_append, String.ofList_toList]
  unfold sortKey
  simp only [hbase, hname]
  rcases families_getElem?.mp hfamily with ⟨rfl, rfl⟩ | ⟨rfl, rfl⟩ <;> rfl

namespace SortKey

instance : Std.TransCmp SortKey.compare :=
  inferInstanceAs (Std.TransCmp
    (compareLex (compareLex (compareOn rank) (compareOn number)) (compareOn name)))

variable {a b : SortKey}

/-- Different keys do not tie. -/
theorem eq_of_compare_eq (htie : a.compare b = .eq) : a = b := by
  simp only [SortKey.compare, Ordering.then_eq_eq, Std.LawfulEqOrd.compare_eq_iff_eq] at htie
  obtain ⟨⟨hrank, hnumber⟩, hname⟩ := htie
  obtain ⟨rank, number, name⟩ := a
  rw [SortKey.mk.injEq]
  exact ⟨hrank, hnumber, hname⟩

/-- The first of family, number and name that differs decides. -/
theorem compare_eq_lt_iff : a.compare b = .lt
    ↔ a.rank < b.rank ∨ a.rank = b.rank
      ∧ (a.number < b.number ∨ a.number = b.number ∧ a.name < b.name) := by
  have hname : Ord.compare a.name b.name = .lt ↔ a.name < b.name := compareOfLessAndEq_eq_lt
  simp only [SortKey.compare, Ordering.then_eq_lt, Ordering.then_eq_eq, Nat.compare_eq_lt,
    Std.LawfulEqOrd.compare_eq_iff_eq, hname]
  tauto

end SortKey

/-! ## §4. The order of the devices -/

/-- The key of a name stands before that of another. -/
def KeyBefore (a b : String) : Prop := (sortKey a).compare (sortKey b) = .lt

/-- No name stands before itself. -/
instance : Std.Irrefl KeyBefore := ⟨fun a h => by
  have hsame : (sortKey a).compare (sortKey a) = .eq := Std.ReflCmp.compare_self
  rw [KeyBefore, hsame] at h
  cases h⟩

/-- Nor do two names stand before each other. -/
instance : Std.Antisymm KeyBefore := ⟨fun a b hab hba => by
  rw [KeyBefore, Std.OrientedCmp.gt_of_lt hab] at hba
  cases hba⟩

/-- **Different devices have different keys.** -/
theorem eq_of_sortKey_eq {a b : String} (ha : isDevice a = true) (hb : isDevice b = true)
    (htie : (sortKey a).compare (sortKey b) = .eq) : a = b := by
  obtain ⟨rank, rest, family, hfamily, hslash, rfl⟩ := isDevice_iff.mp ha
  obtain ⟨rank', rest', family', hfamily', hslash', rfl⟩ := isDevice_iff.mp hb
  have hkeys := SortKey.eq_of_compare_eq htie
  rw [sortKey_eq hfamily hslash, sortKey_eq hfamily' hslash'] at hkeys
  -- the key holds the whole name but for the directory
  have hname : family ++ String.ofList rest = family' ++ String.ofList rest' :=
    congrArg SortKey.name hkeys
  rw [hname]

/-- **The order of devices**: modems before adapters; in a family the lower number
    first; with equal numbers the name whose bytes are first. -/
inductive Precedes (a b : String) : Prop where
  | family {i j : Nat} {r s : List Char} (ha : IsDevice i r a) (hb : IsDevice j s b) (hlt : i < j)
  | number {i m n : Nat} {r s : List Char} (ha : IsDevice i r a) (hb : IsDevice i s b)
    (hm : ListedBy r m) (hn : ListedBy s n) (hlt : m < n)
  | bytes {i n : Nat} {r s : List Char} (ha : IsDevice i r a) (hb : IsDevice i s b)
    (hr : ListedBy r n) (hs : ListedBy s n) (hlt : Text.utf8 a < Text.utf8 b)

/-- Names in one directory are in the order of their bytes without it. -/
theorem utf8_lt_of_lt (directory : String) {a b : String} (hlt : a < b) :
    Text.utf8 (directory ++ a) < Text.utf8 (directory ++ b) := by
  rw [Text.utf8_lt_iff, String.lt_iff, String.toList_append, String.toList_append]
  exact List.append_left_lt hlt

/-- **Devices in the order of their keys** are in order. -/
theorem precedes_of_keyBefore {a b : String} (ha : isDevice a = true) (hb : isDevice b = true)
    (hbefore : KeyBefore a b) : Precedes a b := by
  obtain ⟨rank, rest, hdevice⟩ := isDevice_iff.mp ha
  obtain ⟨rank', rest', hdevice'⟩ := isDevice_iff.mp hb
  obtain ⟨family, hfamily, hslash, hname⟩ := id hdevice
  obtain ⟨family', hfamily', hslash', hname'⟩ := id hdevice'
  have hkey := sortKey_eq hfamily hslash
  have hkey' := sortKey_eq hfamily' hslash'
  rw [← hname] at hkey
  rw [← hname'] at hkey'
  rw [KeyBefore, SortKey.compare_eq_lt_iff, hkey, hkey'] at hbefore
  rcases hbefore with hrank | ⟨rfl, hnumber | ⟨hnumber, hbytes⟩⟩
  · exact .family hdevice hdevice' hrank
  · exact .number hdevice hdevice' (listedBy_number? rest) (listedBy_number? rest') hnumber
  · have hlisted := listedBy_number? rest
    have hlt := utf8_lt_of_lt deviceDirectory hbytes
    rw [← hname, ← hname'] at hlt
    rw [show (number? rest).getD (UInt64.size - 1) = _ from hnumber] at hlisted
    exact .bytes hdevice hdevice' hlisted (listedBy_number? rest') hlt

/-! ## §5. Each port once -/

section

variable {held ports : List PortInfo} {port : PortInfo}

theorem nodup_hold (hheld : (held.map (·.name)).Nodup) :
    ((hold held port).map (·.name)).Nodup := by
  unfold hold
  split
  · exact hheld
  · next hnew =>
    have hnone : port.name ∉ held.map (·.name) := by
      rintro hmem
      obtain ⟨other, hother, hname⟩ := List.mem_map.mp hmem
      exact hnew (List.any_eq_true.mpr ⟨other, hother, decide_eq_true hname⟩)
    rw [List.map_append, List.nodup_append]
    refine ⟨hheld, List.nodup_singleton _, ?_⟩
    intro name hname name' hname' heq
    rw [List.map_singleton, List.mem_singleton] at hname'
    exact hnone (hname' ▸ heq ▸ hname)

/-- **No name is held twice.** -/
theorem nodup_foldl_hold (hheld : (held.map (·.name)).Nodup) :
    ((ports.foldl hold held).map (·.name)).Nodup := by
  induction ports generalizing held with
  | nil => exact hheld
  | cons port rest ih => exact ih (nodup_hold hheld)

/-- **What was offered first of a name is held**, and what comes later is not. -/
theorem find?_foldl_hold (name : String) :
    (ports.foldl hold held).find? (·.name = name) = (held ++ ports).find? (·.name = name) := by
  induction ports generalizing held with
  | nil => rw [List.append_nil]; rfl
  | cons port rest ih =>
    rw [List.foldl_cons, ih, hold, List.find?_append, List.find?_append, List.find?_cons]
    split
    · next hthere =>
      -- a later offer of a name that is held is passed over
      obtain ⟨other, hother, hname⟩ := List.any_eq_true.mp hthere
      by_cases hport : port.name = name
      · have hfound : (held.find? (·.name = name)).isSome := by
          rw [List.find?_isSome]
          exact ⟨other, hother, decide_eq_true ((of_decide_eq_true hname).trans hport)⟩
        obtain ⟨first, hfirst⟩ := Option.isSome_iff_exists.mp hfound
        rw [hfirst]
        rfl
      · rw [decide_eq_false hport]
    · rw [List.find?_append, Option.or_assoc, List.find?_cons, List.find?_nil]
      by_cases hport : port.name = name
      · rw [decide_eq_true hport]
        rfl
      · rw [decide_eq_false hport]
        rfl

end

section

variable {reports : Option (List PortReport)} {directory : Option (List (List UInt8))}
  {held : List PortInfo}

/-- A port of this name is reported, or lies in the device directory. -/
def Reported (reports : Option (List PortReport)) (directory : Option (List (List UInt8)))
    (name : String) : Prop :=
  (∃ report ∈ reports.getD [], report.name = name)
    ∨ ∃ fileName ∈ textNames (directory.getD []), name = deviceDirectory ++ fileName

@[simp] theorem name_ofReport (report : PortReport) :
    (PortInfo.ofReport report).name = report.name := by
  unfold PortInfo.ofReport
  split <;> rfl

/-- A device in the device directory is a file of a known family. -/
theorem hasFamily_of_isDevice {fileName : String}
    (hdevice : isDevice (deviceDirectory ++ fileName) = true) : hasFamily fileName = true := by
  rw [isDevice, Option.any_eq_true] at hdevice
  obtain ⟨file, hfile, htests⟩ := hdevice
  rw [afterStart?_eq_some_iff, String.toList_append] at hfile
  rw [List.append_cancel_left hfile.symm, String.ofList_toList, Bool.and_eq_true] at htests
  exact htests.1

/-- Every device that is there is offered, and no other. -/
theorem exists_offered_iff {name : String} (hdevice : isDevice name = true) :
    (∃ port ∈ offered reports directory, port.name = name) ↔ Reported reports directory name := by
  simp only [offered, List.mem_append, List.mem_map, List.mem_filter]
  constructor
  · rintro ⟨port, ⟨report, hreport, rfl⟩ | ⟨fileName, ⟨hfile, -⟩, rfl⟩, rfl⟩
    · exact .inl ⟨report, hreport, (name_ofReport report).symm⟩
    · exact .inr ⟨fileName, hfile, rfl⟩
  · rintro (⟨report, hreport, rfl⟩ | ⟨fileName, hfile, rfl⟩)
    · exact ⟨_, .inl ⟨report, hreport, rfl⟩, name_ofReport report⟩
    · exact ⟨_, .inr ⟨fileName, ⟨hfile, hasFamily_of_isDevice hdevice⟩, rfl⟩, rfl⟩

/-- What was offered first of a name is what is there of it. -/
theorem find?_gather (name : String) :
    (gather reports directory).find? (·.name = name)
      = (offered reports directory).find? (·.name = name) := by
  rw [gather, find?_foldl_hold, List.nil_append]

theorem nodup_gather : ((gather reports directory).map (·.name)).Nodup :=
  nodup_foldl_hold List.nodup_nil

/-! ## §6. The list -/

/-- The names of the devices among the ports that are held, as they are listed. -/
def deviceNames (held : List PortInfo) : List String :=
  ((inOrder held).map (·.name)).filter isDevice

theorem mem_deviceNames {name : String} (hheld : held.Perm (gather reports directory)) :
    name ∈ deviceNames held ↔ isDevice name = true ∧ Reported reports directory name := by
  have hsorted : (inOrder held).Perm (gather reports directory) :=
    (List.mergeSort_perm held _).trans hheld
  have hfind : ∀ ports : List PortInfo,
      (∃ port ∈ ports, port.name = name) ↔ (ports.find? (·.name = name)).isSome = true := by
    intro ports
    simp only [List.find?_isSome, decide_eq_true_eq]
  have hfound : (∃ port ∈ gather reports directory, port.name = name)
      ↔ ∃ port ∈ offered reports directory, port.name = name := by
    rw [hfind, hfind, find?_gather]
  rw [deviceNames, List.mem_filter, (hsorted.map _).mem_iff, List.mem_map, hfound, and_comm]
  exact and_congr_right exists_offered_iff

theorem nodup_deviceNames (hheld : held.Perm (gather reports directory)) :
    (deviceNames held).Nodup := by
  have hsorted : (inOrder held).Perm (gather reports directory) :=
    (List.mergeSort_perm held _).trans hheld
  exact ((hsorted.map _).nodup_iff.mpr nodup_gather).filter _

/-- Ports are sorted by their keys. -/
theorem pairwise_inOrder (held : List PortInfo) :
    (inOrder held).Pairwise fun a b => ((sortKey a.name).compare (sortKey b.name)).isLE = true := by
  refine List.pairwise_mergeSort ?_ ?_ held
  · intro a b c
    exact Std.TransCmp.isLE_trans
  · intro a b
    have hswap : (sortKey b.name).compare (sortKey a.name)
        = ((sortKey a.name).compare (sortKey b.name)).swap := Std.OrientedCmp.eq_swap
    rw [hswap]
    cases (sortKey a.name).compare (sortKey b.name) <;> rfl

/-- **Devices are listed by their keys**, of which no two are equal. -/
theorem pairwise_deviceNames (hheld : held.Perm (gather reports directory)) :
    (deviceNames held).Pairwise KeyBefore := by
  have hle : (deviceNames held).Pairwise
      fun a b => ((sortKey a).compare (sortKey b)).isLE = true :=
    (List.pairwise_map.mpr (pairwise_inOrder held)).filter _
  refine (hle.and (nodup_deviceNames hheld)).imp_of_mem ?_
  rintro a b ha hb ⟨hle, hne⟩
  have hdevice : ∀ name ∈ deviceNames held, isDevice name = true :=
    fun name hname => ((mem_deviceNames hheld).mp hname).1
  -- the sort lets equal keys pass, but then it would be one device
  cases hkeys : (sortKey a).compare (sortKey b) with
  | lt => exact hkeys
  | eq => exact absurd (eq_of_sortKey_eq (hdevice a ha) (hdevice b hb) hkeys) hne
  | gt => rw [hkeys] at hle; cases hle

/-- A port that is listed is known by what was offered first of its name. -/
theorem find?_offered_of_mem {port : PortInfo} (hheld : held.Perm (gather reports directory))
    (hport : port ∈ inOrder held) :
    (offered reports directory).find? (·.name = port.name) = some port := by
  have hmem : port ∈ gather reports directory :=
    hheld.mem_iff.mp ((List.mergeSort_perm held _).mem_iff.mp hport)
  rw [← find?_gather]
  have hsome : ((gather reports directory).find? (·.name = port.name)).isSome = true := by
    rw [List.find?_isSome]
    exact ⟨port, hmem, decide_eq_true rfl⟩
  obtain ⟨first, hfirst⟩ := Option.isSome_iff_exists.mp hsome
  -- no other port that is held has this name
  have hname : first.name = port.name := by
    have htest := List.find?_some hfirst
    exact of_decide_eq_true htest
  have hsame := List.inj_on_of_nodup_map nodup_gather (List.mem_of_find?_eq_some hfirst) hmem hname
  rw [hfirst, hsame]

/-- **The same devices make the same list**, whatever else is reported with them. -/
theorem deviceNames_eq {reports' : Option (List PortReport)}
    {directory' : Option (List (List UInt8))} {held' : List PortInfo}
    (hheld : held.Perm (gather reports directory)) (hheld' : held'.Perm (gather reports' directory'))
    (hsame : ∀ name, isDevice name = true →
      (Reported reports' directory' name ↔ Reported reports directory name)) :
    deviceNames held' = deviceNames held := by
  refine (pairwise_deviceNames hheld').eq_of_mem_iff (pairwise_deviceNames hheld) fun name => ?_
  rw [mem_deviceNames hheld', mem_deviceNames hheld]
  exact and_congr_right (hsame name)

/-- **The devices of a machine are listed once each, in one order.**  However the
    ports were held before they were sorted, the devices that are listed are those of
    its list of ports: those that are there, each once, in order, and known by what was
    offered first.  If the same devices are there, reported in whatever order and by
    whatever means, the same list comes out.  No two devices tie. -/
theorem devices_listed_in_order (reports : Option (List PortReport))
    (directory : Option (List (List UInt8))) (held : List PortInfo)
    (hheld : held.Perm (gather reports directory)) :
    deviceNames held = ((ports reports directory).map (·.name)).filter isDevice
    ∧ (deviceNames held).Nodup
    ∧ (∀ name, name ∈ deviceNames held
        ↔ isDevice name = true ∧ Reported reports directory name)
    ∧ (deviceNames held).Pairwise Precedes
    ∧ (∀ port ∈ inOrder held,
        (offered reports directory).find? (·.name = port.name) = some port)
    ∧ (∀ reports' directory' held', held'.Perm (gather reports' directory') →
        (∀ name, isDevice name = true →
          (Reported reports' directory' name ↔ Reported reports directory name)) →
        deviceNames held' = deviceNames held)
    ∧ ∀ a b, isDevice a = true → isDevice b = true →
        (sortKey a).compare (sortKey b) = .eq → a = b := by
  refine ⟨deviceNames_eq (.refl _) hheld fun _ _ => .rfl, nodup_deviceNames hheld,
    fun name => mem_deviceNames hheld, ?_, fun port => find?_offered_of_mem hheld,
    fun _ _ _ hheld' => deviceNames_eq hheld hheld', fun a b => eq_of_sortKey_eq⟩
  refine (pairwise_deviceNames hheld).imp_of_mem fun ha hb hkeys => ?_
  have hdevice := ((mem_deviceNames hheld).mp ha).1
  have hdevice' := ((mem_deviceNames hheld).mp hb).1
  exact precedes_of_keyBefore hdevice hdevice' hkeys

/-- A device that is reported and has a file is listed once, with what the report tells. -/
theorem devices_listed_in_order_of_three :
    let reports := some [⟨"/dev/ttyUSB0", some ⟨0x10C4, 0xEA60, none⟩⟩]
    let directory := some (["ttyUSB0", "ttyACM10", "ttyACM2"].map Text.utf8)
    let held := [.bare "/dev/ttyACM10", ⟨"/dev/ttyUSB0", some 0x10C4, some 0xEA60, none⟩,
      .bare "/dev/ttyACM2"]
    held.Perm (gather reports directory) ∧ (deviceNames held).Nodup
      ∧ (deviceNames held).Pairwise Precedes := by
  intro reports directory held
  have hgather : gather reports directory = [⟨"/dev/ttyUSB0", some 0x10C4, some 0xEA60, none⟩,
      .bare "/dev/ttyACM10", .bare "/dev/ttyACM2"] := by
    have hnames : textNames (directory.getD []) = ["ttyUSB0", "ttyACM10", "ttyACM2"] := by
      simp only [directory, textNames, Option.getD_some, List.map_cons, List.map_nil,
        List.filterMap_cons, Text.decode?_utf8, List.filterMap_nil]
    rw [gather, offered, hnames]
    decide
  have hheld : held.Perm (gather reports directory) := by
    rw [hgather]
    exact .swap _ _ _
  obtain ⟨-, hnodup, -, hordered, -⟩ := devices_listed_in_order reports directory held hheld
  exact ⟨hheld, hnodup, hordered⟩

end

end ZWaveHost.SerialPort
