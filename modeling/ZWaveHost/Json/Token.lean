/-
  ZWaveHost.Json.Token — the words of a JSON text.

  Strict JSON: blanks are the space, the tab and the two line ends; a number
  has no leading zero and a digit on either side of its point; a string holds
  no raw control character and only the escapes of the format.  `Token.scan`
  cuts a text into its words, `Token.chars` writes one.
-/
import ZWaveHost.Json.Basic
import ZWaveHost.Text.Hex

namespace ZWaveHost.Json

/-- A word of a JSON text. -/
inductive Token where
  | beginArray
  | endArray
  | beginObject
  | endObject
  | comma
  | colon
  | null
  | bool (value : Bool)
  | number (value : Number)
  | string (text : Option String)
  deriving DecidableEq, Inhabited

namespace Token

/-! ## §1. Strings -/

/-- A character of a string, or a 16-bit unit named by an escape. -/
inductive Piece where
  | char (c : Char)
  | unit (value : Nat)
  deriving DecidableEq

/-- The character behind a one-letter escape. -/
def escape? : Char → Option Char
  | '"' => some '"'
  | '\\' => some '\\'
  | '/' => some '/'
  | 'b' => some '\x08'
  | 'f' => some '\x0c'
  | 'n' => some '\n'
  | 'r' => some '\r'
  | 't' => some '\t'
  | _ => none

/-- The unit named by four digits. -/
def unit? (a b c d : Char) : Option Nat := do
  let a ← Text.hexValue? a
  let b ← Text.hexValue? b
  let c ← Text.hexValue? c
  let d ← Text.hexValue? d
  return ((a * 16 + b) * 16 + c) * 16 + d

/-- The pieces of a string up to its closing quote, and what follows it. -/
def stringPieces : List Char → Option (List Piece × List Char)
  | '"' :: rest => some ([], rest)
  | '\\' :: 'u' :: a :: b :: c :: d :: rest => do
    let u ← unit? a b c d
    let (pieces, rest) ← stringPieces rest
    return (.unit u :: pieces, rest)
  | '\\' :: e :: rest => do
    let c ← escape? e
    let (pieces, rest) ← stringPieces rest
    return (.char c :: pieces, rest)
  | c :: rest =>
    if c.toNat < 0x20 then none
    else do
      let (pieces, rest) ← stringPieces rest
      return (.char c :: pieces, rest)
  | [] => none

/-- Whether a unit is the first, or the second, half of a pair. -/
def isHighHalf (u : Nat) : Bool := 0xD800 ≤ u && u < 0xDC00

@[inherit_doc isHighHalf]
def isLowHalf (u : Nat) : Bool := 0xDC00 ≤ u && u < 0xE000

/-- The characters of a string; there are none if a half stands alone. -/
def joinPieces : List Piece → Option (List Char)
  | [] => some []
  | .char c :: rest => (joinPieces rest).map (c :: ·)
  | .unit high :: .unit low :: rest =>
    if isHighHalf high && isLowHalf low then
      (joinPieces rest).map
        (Char.ofNat (0x10000 + (high - 0xD800) * 0x400 + (low - 0xDC00)) :: ·)
    else if isHighHalf high || isLowHalf high then none
    else (joinPieces (.unit low :: rest)).map (Char.ofNat high :: ·)
  | .unit u :: rest =>
    if isHighHalf u || isLowHalf u then none
    else (joinPieces rest).map (Char.ofNat u :: ·)

/-! ## §2. Numbers -/

/-- The digits at the front of a text, and what follows them. -/
def spanDigits (cs : List Char) : List Char × List Char :=
  (cs.takeWhile Char.isDigit, cs.dropWhile Char.isDigit)

/-- The value of a run of digits. -/
def digitsValue (ds : List Char) : Nat :=
  ds.foldl (fun n d => 10 * n + (d.toNat - '0'.toNat)) 0

/-- The whole part of a number: a zero, or digits that begin with another one. -/
def wholePart? : List Char → Option (List Char × List Char)
  | '0' :: rest => some (['0'], rest)
  | cs =>
    match spanDigits cs with
    | ([], _) => none
    | digits => some digits

/-- The fraction of a number; empty if there is no point. -/
def fraction? : List Char → Option (List Char × List Char)
  | '.' :: rest =>
    match spanDigits rest with
    | ([], _) => none
    | (digits, rest) => some ('.' :: digits, rest)
  | cs => some ([], cs)

/-- The sign in front of an exponent's digits. -/
def exponentSign : List Char → List Char × List Char
  | '+' :: rest => (['+'], rest)
  | '-' :: rest => (['-'], rest)
  | cs => ([], cs)

/-- The exponent of a number; empty if there is none. -/
def exponent? : List Char → Option (List Char × List Char)
  | [] => some ([], [])
  | e :: rest =>
    if e = 'e' ∨ e = 'E' then
      let (sign, rest) := exponentSign rest
      match spanDigits rest with
      | ([], _) => none
      | (digits, rest) => some (e :: sign ++ digits, rest)
    else some ([], e :: rest)

/-- The sign of a number. -/
def minus : List Char → Bool × List Char
  | '-' :: rest => (true, rest)
  | cs => (false, cs)

/-- A number and what follows it. -/
def number? (cs : List Char) : Option (Number × List Char) := do
  let (negative, rest) := minus cs
  let (whole, rest) ← wholePart? rest
  let (fraction, rest) ← fraction? rest
  let (exponent, rest) ← exponent? rest
  let value := digitsValue whole
  let sign := if negative then ['-'] else []
  if fraction = [] ∧ exponent = [] ∧ ¬(negative ∧ value = 0) then
    return (.integer (if negative then -(value : Int) else value), rest)
  else
    return (.literal (sign ++ whole ++ fraction ++ exponent), rest)

/-! ## §3. Words -/

/-- The characters between words. -/
def isBlank (c : Char) : Bool :=
  c == ' ' || c == '\t' || c == '\n' || c == '\r'

/-- What follows a given word at the front of a text. -/
def expect? : List Char → List Char → Option (List Char)
  | [], cs => some cs
  | w :: word, c :: cs => if w = c then expect? word cs else none
  | _ :: _, [] => none

/-- The word that begins with the character `c`, and what follows it. -/
def next? (c : Char) (rest : List Char) : Option (Token × List Char) :=
  match c with
  | '[' => some (.beginArray, rest)
  | ']' => some (.endArray, rest)
  | '{' => some (.beginObject, rest)
  | '}' => some (.endObject, rest)
  | ',' => some (.comma, rest)
  | ':' => some (.colon, rest)
  | '"' => (stringPieces rest).map fun (pieces, rest) =>
      (.string ((joinPieces pieces).map String.ofList), rest)
  | 'n' => (expect? "ull".toList rest).map (.null, ·)
  | 't' => (expect? "rue".toList rest).map (.bool true, ·)
  | 'f' => (expect? "alse".toList rest).map (.bool false, ·)
  | _ => (number? (c :: rest)).map fun (n, rest) => (.number n, rest)

/-! A word uses up at least its first character. -/

theorem stringPieces_length {cs rest : List Char} {ps : List Piece}
    (h : stringPieces cs = some (ps, rest)) : rest.length < cs.length := by
  fun_induction stringPieces cs generalizing ps rest with
  | case1 r =>
    simp only [Option.some.injEq, Prod.mk.injEq] at h
    simp [← h.2]
  | case2 a b c d r ih =>
    simp only [Option.bind_eq_bind, Option.bind_eq_some_iff, Option.pure_def] at h
    obtain ⟨u, -, ⟨ps', r'⟩, hr, h⟩ := h
    have hlt := ih hr
    simp only [Option.some.injEq, Prod.mk.injEq] at h
    simp only [List.length_cons, ← h.2]
    omega
  | case3 e r _ ih =>
    simp only [Option.bind_eq_bind, Option.bind_eq_some_iff, Option.pure_def] at h
    obtain ⟨u, -, ⟨ps', r'⟩, hr, h⟩ := h
    have hlt := ih hr
    simp only [Option.some.injEq, Prod.mk.injEq] at h
    simp only [List.length_cons, ← h.2]
    omega
  | case4 => simp at h
  | case5 c r _ _ _ _ ih =>
    simp only [Option.bind_eq_bind, Option.bind_eq_some_iff, Option.pure_def] at h
    obtain ⟨⟨ps', r'⟩, hr, h⟩ := h
    have hlt := ih hr
    simp only [Option.some.injEq, Prod.mk.injEq] at h
    simp only [List.length_cons, ← h.2]
    omega
  | case6 => simp at h

theorem expect?_length {word cs rest : List Char} (h : expect? word cs = some rest) :
    rest.length ≤ cs.length := by
  fun_induction expect? word cs with
  | case1 cs => simp only [Option.some.injEq] at h; simp [h]
  | case2 _ _ _ ih => exact Nat.le_succ_of_le (ih h)
  | case3 => simp at h
  | case4 => simp at h

theorem spanDigits_length (cs : List Char) :
    (spanDigits cs).1.length + (spanDigits cs).2.length = cs.length := by
  rw [spanDigits, ← List.length_append, List.takeWhile_append_dropWhile]

theorem wholePart?_length {cs ds rest : List Char} (h : wholePart? cs = some (ds, rest)) :
    rest.length < cs.length := by
  unfold wholePart? at h
  split at h
  · simp only [Option.some.injEq, Prod.mk.injEq] at h
    simp [h.2]
  · split at h
    · simp at h
    · next digits hd =>
      have hl := spanDigits_length cs
      rw [Option.some.inj h] at hl
      have hne : ds ≠ [] := by
        rintro rfl
        exact hd _ (Option.some.inj h)
      have := List.length_pos_iff.mpr hne
      simp only at hl
      omega

theorem fraction?_length {cs ds rest : List Char} (h : fraction? cs = some (ds, rest)) :
    rest.length ≤ cs.length := by
  unfold fraction? at h
  split at h
  · next r =>
    split at h
    · simp at h
    · next digits r' _ hd =>
      have hl := spanDigits_length r
      rw [hd] at hl
      simp only [Option.some.injEq, Prod.mk.injEq] at h
      simp only [List.length_cons, ← h.2]
      simp only at hl
      omega
  · simp only [Option.some.injEq, Prod.mk.injEq] at h
    simp [h.2]

theorem exponentSign_length (cs : List Char) :
    (exponentSign cs).2.length ≤ cs.length := by
  unfold exponentSign
  split <;> simp

theorem exponent?_length {cs ds rest : List Char} (h : exponent? cs = some (ds, rest)) :
    rest.length ≤ cs.length := by
  unfold exponent? at h
  split at h
  · simp only [Option.some.injEq, Prod.mk.injEq] at h
    simp [← h.2]
  · next e r =>
    split at h
    · simp only at h
      have hs := exponentSign_length r
      split at h
      · simp at h
      · next digits r' _ hd =>
        have hl := spanDigits_length (exponentSign r).2
        rw [hd] at hl
        simp only [Option.some.injEq, Prod.mk.injEq] at h
        simp only [List.length_cons, ← h.2]
        simp only at hl
        omega
    · simp only [Option.some.injEq, Prod.mk.injEq] at h
      simp [← h.2]

theorem minus_length (cs : List Char) : (minus cs).2.length ≤ cs.length := by
  unfold minus
  split <;> simp

theorem number?_length {cs rest : List Char} {n : Number}
    (h : number? cs = some (n, rest)) : rest.length < cs.length := by
  simp only [number?, Option.bind_eq_bind, Option.bind_eq_some_iff] at h
  obtain ⟨⟨w, r1⟩, h1, ⟨f, r2⟩, h2, ⟨e, r3⟩, h3, h⟩ := h
  have hm := minus_length cs
  have hw : r1.length < _ := wholePart?_length h1
  have hf : r2.length ≤ r1.length := fraction?_length h2
  have he : r3.length ≤ r2.length := exponent?_length h3
  have hr : r3 = rest := by
    split at h <;> simp only [Option.pure_def, Option.some.injEq, Prod.mk.injEq] at h <;>
      exact h.2
  subst hr
  omega

theorem next?_length {c : Char} {cs rest : List Char} {t : Token}
    (h : next? c cs = some (t, rest)) : rest.length ≤ cs.length := by
  have same : ∀ {u : Token}, some (u, cs) = some (t, rest) → rest.length ≤ cs.length := by
    intro u hu
    exact (Prod.mk.inj (Option.some.inj hu)).2 ▸ Nat.le_refl _
  have word : ∀ {u : Token} {w : List Char},
      (expect? w cs).map (u, ·) = some (t, rest) → rest.length ≤ cs.length := by
    intro u w hu
    simp only [Option.map_eq_some_iff, Prod.mk.injEq] at hu
    obtain ⟨r, hp, -, hr⟩ := hu
    exact hr ▸ expect?_length hp
  unfold next? at h
  split at h
  · exact same h
  · exact same h
  · exact same h
  · exact same h
  · exact same h
  · exact same h
  · simp only [Option.map_eq_some_iff, Prod.mk.injEq] at h
    obtain ⟨⟨ps, r⟩, hp, -, hr⟩ := h
    exact hr ▸ Nat.le_of_lt (stringPieces_length hp)
  · exact word h
  · exact word h
  · exact word h
  · simp only [Option.map_eq_some_iff, Prod.mk.injEq] at h
    obtain ⟨⟨n, r⟩, hp, -, hr⟩ := h
    have hlt := number?_length hp
    simp only [List.length_cons] at hlt
    exact hr ▸ Nat.le_of_lt_succ hlt

/-- The words of a text, if it consists of words and blanks. -/
def scan : List Char → Option (List Token)
  | [] => some []
  | c :: cs =>
    if isBlank c then scan cs
    else
      match h : next? c cs with
      | none => none
      | some (token, rest) =>
        have := next?_length h
        (scan rest).map (token :: ·)
termination_by cs => cs.length

/-! ## §4. Writing -/

/-- One character of a written string. -/
def stringChar (c : Char) : List Char :=
  if c = '"' then ['\\', '"']
  else if c = '\\' then ['\\', '\\']
  else if c = '\x08' then ['\\', 'b']
  else if c = '\x0c' then ['\\', 'f']
  else if c = '\n' then ['\\', 'n']
  else if c = '\r' then ['\\', 'r']
  else if c = '\t' then ['\\', 't']
  else if c.toNat < 0x20 then
    ['\\', 'u', '0', '0', Nat.digitChar (c.toNat / 16), Nat.digitChar (c.toNat % 16)]
  else [c]

/-- The written form of a word.  A string without characters is written as
    a half of a pair, so that it reads back as one. -/
def chars : Token → List Char
  | .beginArray => ['[']
  | .endArray => [']']
  | .beginObject => ['{']
  | .endObject => ['}']
  | .comma => [',']
  | .colon => [':']
  | .null => "null".toList
  | .bool true => "true".toList
  | .bool false => "false".toList
  | .number (.integer i) =>
    (if i < 0 then ['-'] else []) ++ Nat.toDigits 10 i.natAbs
  | .number (.literal text) => text
  | .string (some s) => '"' :: s.toList.flatMap stringChar ++ ['"']
  | .string none => "\"\\ud800\"".toList

end Token

end ZWaveHost.Json
