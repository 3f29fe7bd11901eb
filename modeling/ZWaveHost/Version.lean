/-
  ZWaveHost.Version — software versions such as 7.15 or 7.18.3.

  A version is found anywhere in a text: the first run of decimal digits is
  the major number, and a point with a further run adds the minor number,
  then the patch.  Digits of any script make up a run, but only a run of
  ASCII digits below 2^32 is a number.  Versions compare as if a missing
  number were zero.
-/
import ZWaveHost.Text.DecimalDigit

namespace ZWaveHost

/-- A version; a missing number is not the same version as a zero. -/
structure Version where
  major : UInt32
  minor : Option UInt32
  patch : Option UInt32
  deriving DecidableEq, Inhabited

namespace Version

/-! ## §1. Text to version -/

/-- The number that a run of digits is. -/
def number? (digits : List Char) : Option UInt32 :=
  if digits.all Char.isDigit then
    let value := digits.foldl (fun n d => 10 * n + (d.toNat - '0'.toNat)) 0
    if value < UInt32.size then some (UInt32.ofNat value) else none
  else none

/-- The decimal digits at the front of a text, and what follows them. -/
def spanDigits (cs : List Char) : List Char × List Char :=
  (cs.takeWhile Text.isDecimalDigit, cs.dropWhile Text.isDecimalDigit)

/-- A point and a run of digits at the front of a text, and what follows. -/
def component? : List Char → Option (List Char × List Char)
  | '.' :: rest =>
    match spanDigits rest with
    | ([], _) => none
    | run => some run
  | _ => none

/-- The version that begins with a run of digits at the front of a text. -/
def parseRun? (cs : List Char) : Option Version :=
  let (major, rest) := spanDigits cs
  let minor := component? rest
  let patch := minor.bind (component? ·.2)
  (number? major).map fun number =>
    ⟨number, minor.bind (number? ·.1), patch.bind (number? ·.1)⟩

/-- The first version in a text. -/
def parse? (text : String) : Option Version :=
  match text.toList.dropWhile (!Text.isDecimalDigit ·) with
  | [] => none
  | cs => parseRun? cs

/-! ## §2. Version to text -/

/-- A version's text; a patch shows only after a minor number. -/
def render (v : Version) : String :=
  match v.minor, v.patch with
  | none, _ => s!"{v.major}"
  | some minor, none => s!"{v.major}.{minor}"
  | some minor, some patch => s!"{v.major}.{minor}.{patch}"

/-! ## §3. Order -/

/-- Compares the numbers in turn, a missing one as zero. -/
def compare (a b : Version) : Ordering :=
  ((Ord.compare a.major b.major).then
    (Ord.compare (a.minor.getD 0) (b.minor.getD 0))).then
      (Ord.compare (a.patch.getD 0) (b.patch.getD 0))

instance : Ord Version := ⟨Version.compare⟩

/-- Compares two versions as values of which not all need be comparable. -/
def partialCompare (a b : Version) : Option Ordering :=
  some (a.compare b)

/-- The greater of two versions; the second if they compare equal. -/
def max (a b : Version) : Version :=
  if a.compare b = .gt then a else b

end Version

end ZWaveHost
