/-
  ZWaveHost.Proofs.Version.Parsing — versions found in texts.

  Reading a version depends only on where runs of decimal digits begin and end.
  So a text is taken apart once, into what stands before its first run, the run
  and what stands behind it (`FirstRun`), and the version found is a function of
  the last two (`FirstRun.parse?_eq`).  The text of a version is a run with its
  further numbers behind it (`toList_render`), each of them a point and a run.

  Main statement: a version is found again in any text around its own that adds
  neither a digit nor a further number, and no version is found exactly where the
  first run is missing or is no number (`version_found_in_text`).  What has no digit
  changes no version in front of it (`parse?_append_of_no_digit`).
-/
import ZWaveHost.Version

namespace ZWaveHost

namespace Version

/-! ## §1. The first run of digits -/

/-- Whether a text begins with a decimal digit. -/
def startsWithDigit (cs : List Char) : Bool :=
  cs.head?.any Text.isDecimalDigit

/-- The first run of decimal digits in a text, as long as it can be, between what
    stands before it and what stands behind it. -/
structure FirstRun (cs before run after : List Char) : Prop where
  eq_append : cs = before ++ (run ++ after)
  before_no_digit : ∀ c ∈ before, Text.isDecimalDigit c = false
  run_digits : ∀ c ∈ run, Text.isDecimalDigit c = true
  run_nonempty : run ≠ []
  after_no_digit : startsWithDigit after = false

section

variable {cs before run after : List Char} {text : String}

theorem startsWithDigit_append (hrun : ∀ c ∈ run, Text.isDecimalDigit c = true)
    (hne : run ≠ []) : startsWithDigit (run ++ after) = true := by
  obtain ⟨c, _, rfl⟩ := List.exists_cons_of_ne_nil hne
  exact hrun c List.mem_cons_self

theorem startsWithDigit_dropWhile :
    startsWithDigit (cs.dropWhile Text.isDecimalDigit) = false := by
  rw [startsWithDigit, Option.any_eq_false]
  intro c hc
  have hstop := List.head?_dropWhile_not Text.isDecimalDigit cs
  rw [hc] at hstop
  simp [hstop]

/-- A run of digits is split off whole, and nothing more. -/
theorem spanDigits_append (hrun : ∀ c ∈ run, Text.isDecimalDigit c = true)
    (hafter : startsWithDigit after = false) : spanDigits (run ++ after) = (run, after) := by
  have hstop : spanDigits after = ([], after) := by
    cases after with
    | nil => rfl
    | cons c cs =>
      have hc : Text.isDecimalDigit c = false := hafter
      simp [spanDigits, hc]
  obtain ⟨htake, hdrop⟩ := Prod.mk.inj hstop
  rw [spanDigits, List.takeWhile_append_of_pos hrun, List.dropWhile_append_of_pos hrun, htake,
    hdrop, List.append_nil]

/-- What has no digit is passed over. -/
theorem dropWhile_append (hbefore : ∀ c ∈ before, Text.isDecimalDigit c = false) :
    (before ++ after).dropWhile (!Text.isDecimalDigit ·)
      = after.dropWhile (!Text.isDecimalDigit ·) := by
  refine List.dropWhile_append_of_pos fun c hc => ?_
  rw [hbefore c hc]
  rfl

/-- A text with a digit has a first run. -/
theorem exists_firstRun (hdigit : ∃ c ∈ cs, Text.isDecimalDigit c = true) :
    ∃ before run after, FirstRun cs before run after := by
  obtain ⟨first, hfirst⟩ : ∃ first, cs.find? Text.isDecimalDigit = some first :=
    Option.isSome_iff_exists.mp (List.find?_isSome.mpr hdigit)
  obtain ⟨hfirstDigit, before, rest, rfl, hbefore⟩ := List.find?_eq_some_iff_append.mp hfirst
  -- the run goes on to the end of the digits behind the first one
  refine ⟨before, first :: rest.takeWhile Text.isDecimalDigit,
    rest.dropWhile Text.isDecimalDigit, ?_, ?_, ?_, List.cons_ne_nil _ _,
    startsWithDigit_dropWhile⟩
  · rw [List.cons_append, List.takeWhile_append_dropWhile]
  · intro c hc
    simpa using hbefore c hc
  · intro c hc
    rcases List.mem_cons.mp hc with rfl | hc
    · exact hfirstDigit
    · exact List.all_eq_true.mp List.all_takeWhile c hc

/-- **The version found in a text** is given by its first run and by what stands
    behind it. -/
theorem FirstRun.parse?_eq (h : FirstRun text.toList before run after) :
    parse? text = (number? run).map fun major =>
      ⟨major, (component? after).bind (number? ·.1),
        ((component? after).bind (component? ·.2)).bind (number? ·.1)⟩ := by
  rw [parse?, h.eq_append, dropWhile_append h.before_no_digit]
  obtain ⟨c, run, rfl⟩ := List.exists_cons_of_ne_nil h.run_nonempty
  have hc : Text.isDecimalDigit c = true := h.run_digits c List.mem_cons_self
  rw [List.cons_append, List.dropWhile_cons, hc]
  show parseRun? (c :: run ++ after) = _
  rw [parseRun?, spanDigits_append h.run_digits h.after_no_digit]

/-- In a text without a digit no version is found. -/
theorem parse?_of_no_digit (hnone : ∀ c ∈ text.toList, Text.isDecimalDigit c = false) :
    parse? text = none := by
  rw [parse?, ← List.append_nil text.toList, dropWhile_append hnone]
  rfl

/-! ## §2. Runs that are numbers -/

/-- **A run is no number** if it has a digit of another script or is too large. -/
theorem number?_eq_none_iff :
    number? run = none
      ↔ (∃ c ∈ run, c.isDigit = false) ∨ UInt32.size ≤ Nat.ofDigitChars 10 run 0 := by
  have hvalue : number? run
      = if run.all Char.isDigit then
          if Nat.ofDigitChars 10 run 0 < UInt32.size then
            some (UInt32.ofNat (Nat.ofDigitChars 10 run 0))
          else none
        else none := rfl
  rw [hvalue]
  -- only a run of ASCII digits is compared with the bound
  by_cases hascii : run.all Char.isDigit = true
  · have hall : ¬ ∃ c ∈ run, c.isDigit = false := by
      rintro ⟨c, hc, hfalse⟩
      have htrue : c.isDigit = true := List.all_eq_true.mp hascii c hc
      exact Bool.false_ne_true (hfalse.symm.trans htrue)
    rw [if_pos hascii, or_iff_right hall, ← Nat.not_lt, ite_eq_right_iff]
    exact forall_congr' fun _ => ⟨nofun, nofun⟩
  · have hother : ∃ c ∈ run, c.isDigit = false := by simpa using hascii
    rw [if_neg hascii]
    exact ⟨fun _ => .inl hother, fun _ => rfl⟩

/-- The digits of a number. -/
def digits (n : UInt32) : List Char :=
  Nat.toDigits 10 n.toNat

theorem isDigit_of_mem_digits {n : UInt32} : ∀ c ∈ digits n, c.isDigit = true :=
  fun _ hc => Nat.isDigit_of_mem_toDigits (by decide) (by decide) hc

theorem isDecimalDigit_of_mem_digits {n : UInt32} :
    ∀ c ∈ digits n, Text.isDecimalDigit c = true :=
  fun c hc => Text.isDecimalDigit_of_isDigit (isDigit_of_mem_digits c hc)

/-- The digits of a number are read as this number. -/
@[simp] theorem number?_digits (n : UInt32) : number? (digits n) = some n := by
  have hascii : (digits n).all Char.isDigit = true := List.all_eq_true.mpr isDigit_of_mem_digits
  have hvalue : Nat.ofDigitChars 10 (digits n) 0 = n.toNat :=
    Nat.ofDigitChars_ten_toDigits
  rw [number?, if_pos hascii]
  show (if Nat.ofDigitChars 10 (digits n) 0 < UInt32.size then
    some (UInt32.ofNat (Nat.ofDigitChars 10 (digits n) 0)) else none) = some n
  rw [hvalue, if_pos n.toNat_lt_size, UInt32.ofNat_toNat]

/-! ## §3. The numbers behind the first -/

/-- A further number as it stands in a text, behind a point. -/
def further : Option UInt32 → List Char
  | none => []
  | some n => '.' :: digits n

theorem startsWithDigit_further (hafter : startsWithDigit after = false) (n : Option UInt32) :
    startsWithDigit (further n ++ after) = false := by
  cases n with
  | none => exact hafter
  | some n =>
    show Text.isDecimalDigit '.' = false
    decide

/-- Behind a point there is a further number exactly if a digit follows it. -/
theorem component?_point (rest : List Char) :
    component? ('.' :: rest) = if startsWithDigit rest then some (spanDigits rest) else none := by
  rw [component?]
  cases rest with
  | nil => rfl
  | cons c rest =>
    by_cases hc : Text.isDecimalDigit c = true
    · simp [spanDigits, startsWithDigit, hc]
    · simp [spanDigits, startsWithDigit, hc]

theorem component?_eq_none (h : ∀ rest, cs = '.' :: rest → startsWithDigit rest = false) :
    component? cs = none := by
  match cs with
  | [] => rfl
  | c :: cs =>
    by_cases hc : c = '.'
    · rw [hc, component?_point, h cs (by rw [hc])]
      rfl
    · unfold component?
      split
      · next heq => exact absurd (List.cons.inj heq).1 hc
      · rfl

/-- A further number is read in full; without one, none may seem to follow. -/
theorem component?_further {n : Option UInt32} (hafter : startsWithDigit after = false)
    (hnone : n = none → component? after = none) :
    component? (further n ++ after) = n.map fun n => (digits n, after) := by
  cases n with
  | none => exact hnone rfl
  | some n =>
    have hdigit : startsWithDigit (digits n ++ after) = true :=
      startsWithDigit_append isDecimalDigit_of_mem_digits Nat.toDigits_ne_nil
    show component? ('.' :: (digits n ++ after)) = some (digits n, after)
    rw [component?_point, if_pos hdigit, spanDigits_append isDecimalDigit_of_mem_digits hafter]

/-! ## §4. The text of a version -/

/-- The text of a version is its major number with the further ones behind it. -/
theorem toList_render {v : Version} (hv : v.minor = none → v.patch = none) :
    v.render.toList = digits v.major ++ (further v.minor ++ further v.patch) := by
  have hdigits (n : UInt32) : (toString n).toList = digits n := Nat.toList_repr
  have hpoint : (toString ".").toList = ['.'] := rfl
  obtain ⟨major, minor, patch⟩ := v
  cases minor with
  | none =>
    obtain rfl : patch = none := hv rfl
    simp [render, further, hdigits]
  | some minor =>
    cases patch with
    | none => simp [render, further, hdigits, hpoint]
    | some patch => simp [render, further, hdigits, hpoint]

/-- **A version is found in a text around its own**, if this text adds neither a
    digit nor a further number. -/
theorem parse?_append_render {v : Version} {before after : String}
    (hv : v.minor = none → v.patch = none)
    (hbefore : ∀ c ∈ before.toList, Text.isDecimalDigit c = false)
    (hafter : startsWithDigit after.toList = false)
    (hpoint : v.patch = none →
      ∀ rest, after.toList = '.' :: rest → startsWithDigit rest = false) :
    parse? (before ++ v.render ++ after) = some v := by
  have hfirst : FirstRun (before ++ v.render ++ after).toList before.toList (digits v.major)
      (further v.minor ++ (further v.patch ++ after.toList)) :=
    { eq_append := by simp only [String.toList_append, toList_render hv, List.append_assoc]
      before_no_digit := hbefore
      run_digits := isDecimalDigit_of_mem_digits
      run_nonempty := Nat.toDigits_ne_nil
      after_no_digit := startsWithDigit_further (startsWithDigit_further hafter _) _ }
  have hpatch : component? (further v.patch ++ after.toList)
      = v.patch.map fun n => (digits n, after.toList) :=
    component?_further hafter fun hnone => component?_eq_none (hpoint hnone)
  -- a version without a minor number has no patch that could be read in its place
  have hminor : component? (further v.minor ++ (further v.patch ++ after.toList))
      = v.minor.map fun n => (digits n, further v.patch ++ after.toList) := by
    refine component?_further (startsWithDigit_further hafter _) fun hnone => ?_
    rw [hpatch, hv hnone]
    rfl
  rw [hfirst.parse?_eq, number?_digits, hminor]
  obtain ⟨major, minor, patch⟩ := v
  cases minor with
  | none =>
    obtain rfl : patch = none := hv rfl
    rfl
  | some minor =>
    -- the patch is read from what the minor number has left
    simp only [Option.map_some, Option.bind_some, hpatch, number?_digits]
    cases patch with
    | none => rfl
    | some patch => simp only [Option.map_some, Option.bind_some, number?_digits]

/-- **No version is found** exactly where the first run is missing or no number. -/
theorem parse?_eq_none_iff :
    parse? text = none
      ↔ (∀ c ∈ text.toList, Text.isDecimalDigit c = false)
        ∨ ∃ before run after, FirstRun text.toList before run after
          ∧ ((∃ c ∈ run, c.isDigit = false) ∨ UInt32.size ≤ Nat.ofDigitChars 10 run 0) := by
  constructor
  · intro hparse
    by_cases hdigit : ∃ c ∈ text.toList, Text.isDecimalDigit c = true
    · obtain ⟨before, run, after, hfirst⟩ := exists_firstRun hdigit
      rw [hfirst.parse?_eq, Option.map_eq_none_iff] at hparse
      exact .inr ⟨before, run, after, hfirst, number?_eq_none_iff.mp hparse⟩
    · exact .inl (by simpa using hdigit)
  · rintro (hnone | ⟨before, run, after, hfirst, hrun⟩)
    · exact parse?_of_no_digit hnone
    · rw [hfirst.parse?_eq, number?_eq_none_iff.mpr hrun]
      rfl

/-! ## §5. What stands behind a text -/

variable {behind : List Char}

theorem startsWithDigit_of_no_digit (hbehind : ∀ c ∈ behind, Text.isDecimalDigit c = false) :
    startsWithDigit behind = false := by
  cases behind with
  | nil => rfl
  | cons c behind => exact hbehind c List.mem_cons_self

theorem startsWithDigit_append_of_no_digit
    (hbehind : ∀ c ∈ behind, Text.isDecimalDigit c = false) :
    startsWithDigit (cs ++ behind) = startsWithDigit cs := by
  cases cs with
  | nil => exact startsWithDigit_of_no_digit hbehind
  | cons c cs => rfl

/-- A run of digits does not go on into what has none. -/
theorem spanDigits_append_of_no_digit
    (hbehind : ∀ c ∈ behind, Text.isDecimalDigit c = false) :
    spanDigits (cs ++ behind) = ((spanDigits cs).1, (spanDigits cs).2 ++ behind) := by
  induction cs with
  | nil =>
    exact spanDigits_append (by simp) (startsWithDigit_of_no_digit hbehind)
  | cons c cs ih =>
    simp only [spanDigits, Prod.mk.injEq] at ih
    by_cases hc : Text.isDecimalDigit c = true
    · simp [spanDigits, hc, ih]
    · simp [spanDigits, hc]

/-- Nor does a further number begin there. -/
theorem component?_append_of_no_digit
    (hbehind : ∀ c ∈ behind, Text.isDecimalDigit c = false) :
    component? (cs ++ behind) = (component? cs).map fun part => (part.1, part.2 ++ behind) := by
  match cs with
  | [] =>
    refine component?_eq_none fun rest hrest => ?_
    refine startsWithDigit_of_no_digit fun c hc => hbehind c ?_
    rw [← List.nil_append behind, hrest]
    exact List.mem_cons_of_mem _ hc
  | c :: cs =>
    by_cases hc : c = '.'
    · rw [hc, List.cons_append, component?_point, component?_point,
        startsWithDigit_append_of_no_digit hbehind, spanDigits_append_of_no_digit hbehind]
      split <;> rfl
    · have hnone (more : List Char) : component? (c :: more) = none :=
        component?_eq_none fun rest hrest => absurd (List.cons.inj hrest).1 hc
      rw [List.cons_append, hnone, hnone]
      rfl

/-- **What has no digit changes no version in front of it.** -/
theorem parse?_append_of_no_digit {after : String}
    (hafter : ∀ c ∈ after.toList, Text.isDecimalDigit c = false) :
    parse? (text ++ after) = parse? text := by
  by_cases hdigit : ∃ c ∈ text.toList, Text.isDecimalDigit c = true
  · obtain ⟨before, run, rest, hfirst⟩ := exists_firstRun hdigit
    have hfirst' : FirstRun (text ++ after).toList before run (rest ++ after.toList) :=
      { hfirst with
        eq_append := by
          rw [String.toList_append, hfirst.eq_append, List.append_assoc, List.append_assoc]
        after_no_digit := by
          rw [startsWithDigit_append_of_no_digit hafter]
          exact hfirst.after_no_digit }
    rw [hfirst.parse?_eq, hfirst'.parse?_eq, component?_append_of_no_digit hafter]
    cases component? rest with
    | none => rfl
    | some minor =>
      simp only [Option.map_some, Option.bind_some, component?_append_of_no_digit hafter]
      cases component? minor.2 <;> rfl
  · have hnone : ∀ c ∈ text.toList, Text.isDecimalDigit c = false := by simpa using hdigit
    have hnone' : ∀ c ∈ (text ++ after).toList, Text.isDecimalDigit c = false := by
      rw [String.toList_append]
      exact List.forall_mem_append.mpr ⟨hnone, hafter⟩
    rw [parse?_of_no_digit hnone, parse?_of_no_digit hnone']

end

end Version

open Version in
/-- **Versions and the texts around them.**  A version with a patch only behind a
    minor number is found in every text that has no digit before the version's
    own text and goes on behind it neither with a digit nor, where a number could
    still follow, with a point and a digit.  In every text no version is found
    exactly if the text has no digit of any script, or if its first run has a
    digit that is not ASCII, or if this run is 2^32 or more. -/
theorem version_found_in_text :
    (∀ (v : Version) (before after : String), (v.minor = none → v.patch = none) →
      (∀ c ∈ before.toList, Text.isDecimalDigit c = false) →
      startsWithDigit after.toList = false →
      (v.patch = none → ∀ rest, after.toList = '.' :: rest → startsWithDigit rest = false) →
        parse? (before ++ v.render ++ after) = some v)
    ∧ ∀ text : String, parse? text = none
      ↔ (∀ c ∈ text.toList, Text.isDecimalDigit c = false)
        ∨ ∃ before run after, FirstRun text.toList before run after
          ∧ ((∃ c ∈ run, c.isDigit = false) ∨ UInt32.size ≤ Nat.ofDigitChars 10 run 0) :=
  ⟨fun _ _ _ hv hbefore hafter hpoint => parse?_append_render hv hbefore hafter hpoint,
    fun _ => parse?_eq_none_iff⟩

/-- The text of a protocol library, with a point behind the version that begins no
    further number, and a text without a digit. -/
theorem version_found_in_text_of_library :
    Version.parse? ("Z-Wave " ++ Version.render ⟨7, some 15, none⟩ ++ ".x")
        = some ⟨7, some 15, none⟩
      ∧ Version.parse? "no digits" = none := by
  obtain ⟨hfound, hnone⟩ := version_found_in_text
  have hbefore : "Z-Wave ".toList.all (!Text.isDecimalDigit ·) = true := by decide
  have hdigits : "no digits".toList.all (!Text.isDecimalDigit ·) = true := by decide
  refine ⟨hfound ⟨7, some 15, none⟩ "Z-Wave " ".x" nofun ?_ (by decide) ?_, ?_⟩
  · simpa using hbefore
  · rintro - rest hrest
    obtain rfl : ['x'] = rest := (List.cons.inj hrest).2
    decide
  · exact (hnone "no digits").mpr (.inl (by simpa using hdigits))

end ZWaveHost
