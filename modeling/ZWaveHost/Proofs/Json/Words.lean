/-
  ZWaveHost.Proofs.Json.Words — a JSON text is cut into the words that it is made of.

  Every word but a number shows where it ends.  A number ends where nothing follows
  that could belong to it (`Ends`), so two numbers need a blank between them.
  Everywhere else there may be any blanks, or none.

  Main result: words that are spread over a text are found there one by one
  (`scan_spread`).
-/
import Mathlib.Data.List.Chain
import ZWaveHost.Json.Token

namespace ZWaveHost.Json.Token

/-! ## §1. Strings -/

/-- A piece in front of those that are read, and what follows them. -/
def inFront (piece : Piece) (read : List Piece × List Char) : List Piece × List Char :=
  (piece :: read.1, read.2)

theorem stringPieces_escape {e c : Char} (hescape : escape? e = some c) (hunit : e ≠ 'u')
    (rest : List Char) :
    stringPieces ('\\' :: e :: rest) = (stringPieces rest).map (inFront (.char c)) := by
  rw [stringPieces]
  · rw [hescape]
    cases stringPieces rest <;> rfl
  · intro _ _ _ _ _ heq
    exact absurd heq hunit

theorem stringPieces_unit {a b c d : Char} {u : Nat} (hunit : unit? a b c d = some u)
    (rest : List Char) :
    stringPieces ('\\' :: 'u' :: a :: b :: c :: d :: rest)
      = (stringPieces rest).map (inFront (.unit u)) := by
  rw [stringPieces, hunit]
  cases stringPieces rest <;> rfl

theorem stringPieces_plain {c : Char} (hquote : c ≠ '"') (hslash : c ≠ '\\')
    (hplain : ¬ c.toNat < 0x20) (rest : List Char) :
    stringPieces (c :: rest) = (stringPieces rest).map (inFront (.char c)) := by
  rw [stringPieces, if_neg hplain]
  · cases stringPieces rest <;> rfl
  · exact hquote
  · intro _ _ _ _ _ heq
    exact absurd heq hslash
  · intro _ _ heq
    exact absurd heq hslash

/-- The pieces that stand for a character: itself, or a control character's number. -/
inductive Piece.For (c : Char) : Piece → Prop where
  | char : Piece.For c (.char c)
  | unit (hcontrol : c.toNat < 0x20) : Piece.For c (.unit c.toNat)

/-- A control character is written by the digits of its number. -/
theorem unit?_control : ∀ n < 0x20,
    unit? '0' '0' (Nat.digitChar (n / 16)) (Nat.digitChar (n % 16)) = some n := by decide

/-- **A written character is read as one piece**, whatever follows it. -/
theorem exists_piece (c : Char) : ∃ piece, Piece.For c piece
    ∧ ∀ rest, stringPieces (stringChar c ++ rest)
        = (stringPieces rest).map (inFront piece) := by
  unfold stringChar
  -- seven characters have an escape of one letter, other control characters their number
  split
  · next hc => subst hc; exact ⟨_, .char, stringPieces_escape rfl (by decide)⟩
  next hquote =>
  split
  · next hc => subst hc; exact ⟨_, .char, stringPieces_escape rfl (by decide)⟩
  next hslash =>
  split
  · next hc => subst hc; exact ⟨_, .char, stringPieces_escape rfl (by decide)⟩
  split
  · next hc => subst hc; exact ⟨_, .char, stringPieces_escape rfl (by decide)⟩
  split
  · next hc => subst hc; exact ⟨_, .char, stringPieces_escape rfl (by decide)⟩
  split
  · next hc => subst hc; exact ⟨_, .char, stringPieces_escape rfl (by decide)⟩
  split
  · next hc => subst hc; exact ⟨_, .char, stringPieces_escape rfl (by decide)⟩
  split
  · next hcontrol => exact ⟨_, .unit hcontrol, stringPieces_unit (unit?_control _ hcontrol)⟩
  · next hplain => exact ⟨_, .char, stringPieces_plain hquote hslash hplain⟩

/-- A piece that stands for a character is joined to the others as this character. -/
theorem joinPieces_cons {c : Char} {piece : Piece} (hpiece : Piece.For c piece)
    (pieces : List Piece) : joinPieces (piece :: pieces) = (joinPieces pieces).map (c :: ·) := by
  cases hpiece with
  | char => rw [joinPieces]
  | unit hcontrol =>
    -- no control character is a half of a pair
    have hhigh : isHighHalf c.toNat = false := by
      simp only [isHighHalf, Bool.and_eq_false_iff, decide_eq_false_iff_not]
      omega
    have hlow : isLowHalf c.toNat = false := by
      simp only [isLowHalf, Bool.and_eq_false_iff, decide_eq_false_iff_not]
      omega
    cases pieces with
    | nil => simp [joinPieces, hhigh, hlow]
    | cons other pieces =>
      cases other with
      | char d => simp [joinPieces, hhigh, hlow]
      | unit low =>
        rw [joinPieces, hhigh, hlow, Char.ofNat_toNat]
        rfl

/-- **A written string is read as its characters**, up to its closing quote. -/
theorem exists_pieces (cs rest : List Char) :
    ∃ pieces, stringPieces (cs.flatMap stringChar ++ '"' :: rest) = some (pieces, rest)
      ∧ joinPieces pieces = some cs := by
  induction cs with
  | nil => exact ⟨[], by rw [List.flatMap_nil, List.nil_append, stringPieces], by rw [joinPieces]⟩
  | cons c cs ih =>
    obtain ⟨pieces, hpieces, hjoined⟩ := ih
    obtain ⟨piece, hpiece, hread⟩ := exists_piece c
    refine ⟨piece :: pieces, ?_, ?_⟩
    · rw [List.flatMap_cons, List.append_assoc, hread, hpieces]
      rfl
    · rw [joinPieces_cons hpiece, hjoined]
      rfl

/-! ## §2. Numbers -/

/-- Nothing at the front of a text belongs to a number before it. -/
def Ends (rest : List Char) : Prop :=
  ∀ c ∈ rest.head?, c.isDigit = false ∧ c ≠ '.' ∧ c ≠ 'e' ∧ c ≠ 'E'

theorem spanDigits_append {digits rest : List Char} (hdigits : ∀ c ∈ digits, c.isDigit = true)
    (hends : Ends rest) : spanDigits (digits ++ rest) = (digits, rest) := by
  have hnone : rest.takeWhile Char.isDigit = [] ∧ rest.dropWhile Char.isDigit = rest := by
    cases rest with
    | nil => exact ⟨rfl, rfl⟩
    | cons c rest =>
      have hc : ¬ c.isDigit = true := Bool.eq_false_iff.mp (hends c rfl).1
      exact ⟨List.takeWhile_cons_of_neg hc, List.dropWhile_cons_of_neg hc⟩
  rw [spanDigits, List.takeWhile_append_of_pos hdigits, List.dropWhile_append_of_pos hdigits,
    hnone.1, hnone.2, List.append_nil]

/-- The digits of a number do not begin with a zero. -/
theorem head?_toDigits {n : Nat} (hn : 0 < n) : (Nat.toDigits 10 n).head? ≠ some '0' := by
  induction n using Nat.strongRecOn with
  | ind n ih =>
    by_cases hlt : n < 10
    · have hdigit : ∀ n < 10, 0 < n → Nat.digitChar n ≠ '0' := by decide
      rw [Nat.toDigits_of_lt_base hlt, List.head?_cons, ne_eq, Option.some_inj]
      exact hdigit n hlt hn
    · rw [Nat.toDigits_of_base_le (by decide) (Nat.not_lt.mp hlt),
        List.head?_append_of_ne_nil _ Nat.toDigits_ne_nil]
      exact ih (n / 10) (by omega) (by omega)

theorem isDigit_of_mem_toDigits {n : Nat} {c : Char} (hc : c ∈ Nat.toDigits 10 n) :
    c.isDigit = true :=
  Nat.isDigit_of_mem_toDigits (by decide) (by decide) hc

theorem wholePart?_toDigits (n : Nat) {rest : List Char} (hends : Ends rest) :
    wholePart? (Nat.toDigits 10 n ++ rest) = some (Nat.toDigits 10 n, rest) := by
  have hspan := spanDigits_append (fun c => isDigit_of_mem_toDigits (n := n) (c := c)) hends
  rcases Nat.eq_zero_or_pos n with rfl | hn
  · rw [Nat.toDigits_zero]
    rfl
  · unfold wholePart?
    split
    · next heq =>
      have hhead := congrArg List.head? heq
      rw [List.head?_append_of_ne_nil _ Nat.toDigits_ne_nil] at hhead
      exact absurd hhead (head?_toDigits hn)
    · rw [hspan]
      split
      · next heq => exact absurd (Prod.mk.inj heq).1 Nat.toDigits_ne_nil
      · rfl

theorem fraction?_of_ends {rest : List Char} (hends : Ends rest) :
    fraction? rest = some ([], rest) := by
  unfold fraction?
  split
  · exact absurd rfl (hends '.' rfl).2.1
  · rfl

theorem exponent?_of_ends {rest : List Char} (hends : Ends rest) :
    exponent? rest = some ([], rest) := by
  cases rest with
  | nil => rfl
  | cons c rest =>
    obtain ⟨-, -, he, hE⟩ := hends c rfl
    rw [exponent?, if_neg (not_or.mpr ⟨he, hE⟩)]

theorem minus_toDigits (n : Nat) (rest : List Char) :
    minus (Nat.toDigits 10 n ++ rest) = (false, Nat.toDigits 10 n ++ rest) := by
  unfold minus
  split
  · next heq =>
    have hhead := congrArg List.head? heq
    rw [List.head?_append_of_ne_nil _ Nat.toDigits_ne_nil] at hhead
    have hsign := isDigit_of_mem_toDigits (List.mem_of_mem_head? hhead)
    exact absurd hsign (by decide)
  · rfl

theorem digitsValue_toDigits (n : Nat) : digitsValue (Nat.toDigits 10 n) = n :=
  Nat.ofDigitChars_ten_toDigits

theorem chars_integer (i : Int) : chars (.number (.integer i))
    = (if i < 0 then ['-'] else []) ++ Nat.toDigits 10 i.natAbs := rfl

/-- Digits behind a sign, if there is one, are read as an integer. -/
theorem number?_of_minus {negative : Bool} {n : Nat} {cs rest : List Char}
    (hsign : minus cs = (negative, Nat.toDigits 10 n ++ rest)) (hends : Ends rest)
    (hzero : ¬(negative = true ∧ n = 0)) :
    number? cs = some (.integer (if negative then -(n : Int) else n), rest) := by
  simp only [number?, hsign, wholePart?_toDigits n hends, fraction?_of_ends hends,
    exponent?_of_ends hends, digitsValue_toDigits, Option.bind_eq_bind, Option.bind_some]
  rw [if_pos ⟨trivial, trivial, hzero⟩]
  rfl

/-- **A written integer is read as itself**, if nothing behind it belongs to it. -/
theorem number?_integer (i : Int) {rest : List Char} (hends : Ends rest) :
    number? (chars (.number (.integer i)) ++ rest) = some (.integer i, rest) := by
  by_cases hneg : i < 0
  · have hsign : minus (chars (.number (.integer i)) ++ rest)
        = (true, Nat.toDigits 10 i.natAbs ++ rest) := by
      rw [chars_integer, if_pos hneg, List.cons_append, List.nil_append, List.cons_append, minus]
    have hvalue : -(i.natAbs : Int) = i := by omega
    rw [number?_of_minus hsign hends (by omega), if_pos rfl, hvalue]
  · have hsign : minus (chars (.number (.integer i)) ++ rest)
        = (false, Nat.toDigits 10 i.natAbs ++ rest) := by
      rw [chars_integer, if_neg hneg, List.nil_append]
      exact minus_toDigits i.natAbs rest
    have hvalue : (i.natAbs : Int) = i := by omega
    rw [number?_of_minus hsign hends nofun, if_neg nofun, hvalue]

/-! ## §3. Words -/

/-- A word that is a number. -/
def isNumber : Token → Bool
  | .number _ => true
  | _ => false

/-- A word is read as itself where it is found, whatever follows it; if it is a
    number, nothing behind it must belong to it. -/
def Reads (token : Token) : Prop :=
  ∃ c cs, token.chars = c :: cs ∧ isBlank c = false
    ∧ ∀ rest, (token.isNumber = true → Ends rest) → next? c (cs ++ rest) = some (token, rest)

/-- A word that is no number ends a number before it. -/
theorem ends_chars {token : Token} (hother : token.isNumber = false) (rest : List Char) :
    Ends (token.chars ++ rest) := by
  intro c hc
  match token with
  | .number _ => cases hother
  | .beginArray | .endArray | .beginObject | .endObject | .comma | .colon | .null
  | .bool true | .bool false | .string (some _) | .string none =>
    cases hc
    decide

/-- So does a blank. -/
theorem ends_blank {c : Char} (hblank : isBlank c = true) (rest : List Char) :
    Ends (c :: rest) := by
  intro c' hc'
  cases hc'
  simp only [isBlank, Bool.or_eq_true, beq_iff_eq] at hblank
  rcases hblank with ((rfl | rfl) | rfl) | rfl <;> decide

/-- A digit or a sign is not passed over. -/
theorem isBlank_of_digit {c : Char} (hc : c.isDigit = true ∨ c = '-') : isBlank c = false := by
  refine Bool.eq_false_iff.mpr fun hblank => ?_
  simp only [isBlank, Bool.or_eq_true, beq_iff_eq] at hblank
  rcases hblank with ((rfl | rfl) | rfl) | rfl <;> exact absurd hc (by decide)

/-- A word that begins with a digit or a sign is a number. -/
theorem next?_of_digit {c : Char} (hc : c.isDigit = true ∨ c = '-') (rest : List Char) :
    next? c rest = (number? (c :: rest)).map fun read => (.number read.1, read.2) := by
  unfold next?
  split <;> first | rfl | (exact absurd hc (by decide))

theorem reads_integer (i : Int) : Reads (.number (.integer i)) := by
  have hne : chars (.number (.integer i)) ≠ [] := by
    rw [chars_integer]
    exact List.append_ne_nil_of_right_ne_nil _ Nat.toDigits_ne_nil
  obtain ⟨c, cs, hchars⟩ := List.exists_cons_of_ne_nil hne
  have hc : c.isDigit = true ∨ c = '-' := by
    have hmem : c ∈ chars (.number (.integer i)) := hchars ▸ List.mem_cons_self
    rw [chars_integer, List.mem_append] at hmem
    rcases hmem with hsign | hdigit
    · split at hsign
      · exact .inr (List.mem_singleton.mp hsign)
      · cases hsign
    · exact .inl (isDigit_of_mem_toDigits hdigit)
  refine ⟨c, cs, hchars, isBlank_of_digit hc, fun rest hends => ?_⟩
  have hread := number?_integer i (hends rfl)
  rw [hchars, List.cons_append] at hread
  rw [next?_of_digit hc, hread]
  rfl

theorem reads_string (text : String) : Reads (.string (some text)) := by
  refine ⟨'"', text.toList.flatMap stringChar ++ ['"'], rfl, rfl, fun rest _ => ?_⟩
  obtain ⟨pieces, hpieces, hjoined⟩ := exists_pieces text.toList rest
  have hnext : next? '"' (text.toList.flatMap stringChar ++ '"' :: rest)
      = some (.string ((joinPieces pieces).map String.ofList), rest) := by
    rw [next?, hpieces]
    rfl
  rw [List.append_assoc, List.cons_append, List.nil_append, hnext, hjoined, Option.map_some,
    String.ofList_toList]

/-- **A word is read as itself**, unless it is a number that is no integer. -/
theorem reads_of_not_literal {token : Token} (hwhole : ∀ text, token ≠ .number (.literal text)) :
    token.Reads := by
  match token with
  | .beginArray | .endArray | .beginObject | .endObject | .comma | .colon =>
    exact ⟨_, [], rfl, rfl, fun rest _ => rfl⟩
  | .null | .bool true | .bool false => exact ⟨_, _, rfl, rfl, fun rest _ => rfl⟩
  | .number (.integer i) => exact reads_integer i
  | .number (.literal text) => exact absurd rfl (hwhole text)
  | .string (some text) => exact reads_string text
  | .string none => exact ⟨_, _, rfl, rfl, fun rest _ => rfl⟩

/-! ## §4. Texts -/

/-- Words spread over a text: blanks before each word, and at the end. -/
def spread (blanks : Nat → List Char) : Nat → List Token → List Char
  | n, [] => blanks n
  | n, token :: tokens => blanks n ++ (token.chars ++ spread blanks (n + 1) tokens)

/-- Words of which at most one is a number may touch. -/
def MayTouch (a b : Token) : Prop := a.isNumber = true → b.isNumber = false

variable {blanks : Nat → List Char}

theorem scan_blanks {cs : List Char} (hblanks : ∀ c ∈ cs, isBlank c = true) (rest : List Char) :
    scan (cs ++ rest) = scan rest := by
  induction cs with
  | nil => rfl
  | cons c cs ih =>
    obtain ⟨hc, hcs⟩ := List.forall_mem_cons.mp hblanks
    rw [List.cons_append, scan, if_pos hc, ih hcs]

theorem scan_word {token : Token} {c : Char} {cs rest : List Char} (hblank : isBlank c = false)
    (hnext : next? c cs = some (token, rest)) :
    scan (c :: cs) = (scan rest).map (token :: ·) := by
  rw [scan, if_neg (Bool.eq_false_iff.mp hblank)]
  split
  · next hnone => rw [hnext] at hnone; cases hnone
  · next hsome =>
    rw [hnext] at hsome
    cases hsome
    rfl

/-- What is spread behind a number does not belong to it. -/
theorem ends_spread (hblanks : ∀ n, ∀ c ∈ blanks n, isBlank c = true) (n : Nat)
    {tokens : List Token} (hother : ∀ token ∈ tokens.head?, token.isNumber = false) :
    Ends (spread blanks n tokens) := by
  have hfirst : ∀ rest, Ends rest → Ends (blanks n ++ rest) := by
    intro rest hrest
    cases hn : blanks n with
    | nil => exact hrest
    | cons c cs => exact ends_blank (hblanks n c (hn ▸ List.mem_cons_self)) (cs ++ rest)
  cases tokens with
  | nil =>
    have hends : Ends [] := nofun
    have hblank := hfirst [] hends
    rw [List.append_nil] at hblank
    exact hblank
  | cons token tokens => exact hfirst _ (ends_chars (hother token rfl) _)

/-- **Words that are spread over a text are found there one by one.** -/
theorem scan_spread (hblanks : ∀ n, ∀ c ∈ blanks n, isBlank c = true) (n : Nat)
    {tokens : List Token} (hreads : ∀ token ∈ tokens, token.Reads)
    (htouch : tokens.IsChain MayTouch) : scan (spread blanks n tokens) = some tokens := by
  induction tokens generalizing n with
  | nil =>
    rw [spread, ← List.append_nil (blanks n), scan_blanks (hblanks n), scan]
  | cons token tokens ih =>
    obtain ⟨⟨c, cs, hchars, hblank, hnext⟩, hrest⟩ := List.forall_mem_cons.mp hreads
    obtain ⟨hnumber, htail⟩ := List.isChain_cons.mp htouch
    -- behind a number stands no other one, so it ends where it was written to
    have hends : token.isNumber = true → Ends (spread blanks (n + 1) tokens) := fun hn =>
      ends_spread hblanks (n + 1) fun other hother => hnumber other hother hn
    rw [spread, scan_blanks (hblanks n), hchars, List.cons_append,
      scan_word hblank (hnext _ hends), ih (n + 1) hrest htail]
    rfl

end ZWaveHost.Json.Token
