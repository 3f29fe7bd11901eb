/-
  ZWaveHost.Proofs.Version.Order — how versions compare.

  Versions are compared by three numbers in turn, and a missing number counts as
  zero.  So the order is that of the versions in which zeros stand for the missing
  numbers (`filled`), and the laws of an order come from those of the numbers.

  Equality looks at the fields as they are.  A version and its filled form are
  therefore told apart by equality and not by the order, if a number is missing.

  Main results:
    * `compare_eq_eq_iff` — two versions tie exactly if their filled forms are equal.
    * `tie_iff_eq_iff` — where ties and equality agree.
    * `versions_ordered_up_to_zeros` — all laws of the order, and where its ties and
      equality part.
    * `order_ties_need_not_be_equal` — ties of different versions do occur.
-/
import ZWaveHost.Version

namespace ZWaveHost

namespace Version

variable {a b c : Version}

/-! ## §1. The laws of the order -/

/-- The three numbers are compared in turn. -/
theorem compare_eq_compareLex :
    Version.compare = compareLex (compareLex (compareOn major) (compareOn (·.minor.getD 0)))
      (compareOn (·.patch.getD 0)) := rfl

/-- Each of the numbers is in order, and so are the versions. -/
instance : Std.TransCmp Version.compare := by
  rw [compare_eq_compareLex]
  infer_instance

/-- Versions that compare alike do so throughout. -/
theorem compare_trans {o : Ordering} (hab : a.compare b = o) (hbc : b.compare c = o) :
    a.compare c = o := by
  cases o with
  | lt => exact Std.TransCmp.lt_trans hab hbc
  | eq => exact Std.TransCmp.eq_trans hab hbc
  | gt => exact Std.TransCmp.gt_trans hab hbc

/-! ## §2. Ties -/

/-- The version with zeros for its missing numbers. -/
def filled (v : Version) : Version :=
  ⟨v.major, some (v.minor.getD 0), some (v.patch.getD 0)⟩

/-- Whether the same numbers are there. -/
def SameParts (a b : Version) : Prop :=
  a.minor.isSome = b.minor.isSome ∧ a.patch.isSome = b.patch.isSome

instance (a b : Version) : Decidable (SameParts a b) := inferInstanceAs (Decidable (_ ∧ _))

/-- **Two versions tie** exactly if they are the same once zeros stand for the
    missing numbers. -/
theorem compare_eq_eq_iff : a.compare b = .eq ↔ a.filled = b.filled := by
  simp only [Version.compare, Ordering.then_eq_eq, Std.LawfulEqOrd.compare_eq_iff_eq, filled,
    Version.mk.injEq, Option.some.injEq, and_assoc]

/-- A number that is there is told by its value. -/
theorem eq_of_getD_eq {m n : Option UInt32} (hsome : m.isSome = n.isSome)
    (hvalue : m.getD 0 = n.getD 0) : m = n := by
  cases m <;> cases n <;> simp_all

/-- Versions with the same parts are told apart by their filled forms. -/
theorem SameParts.filled_eq_iff (h : SameParts a b) : a.filled = b.filled ↔ a = b := by
  constructor
  · intro hfilled
    obtain ⟨hmajor, hminor, hpatch⟩ : a.major = b.major ∧ a.minor.getD 0 = b.minor.getD 0
        ∧ a.patch.getD 0 = b.patch.getD 0 := by simpa [filled] using hfilled
    obtain ⟨major, minor, patch⟩ := a
    obtain ⟨major', minor', patch'⟩ := b
    rw [Version.mk.injEq]
    exact ⟨hmajor, eq_of_getD_eq h.1 hminor, eq_of_getD_eq h.2 hpatch⟩
  · exact congrArg filled

/-- The tie of two versions is their equality, unless they are equal only once zeros stand
    for the missing numbers. -/
theorem tie_iff_eq_iff :
    (a.compare b = .eq ↔ a = b) ↔ (a.filled = b.filled → SameParts a b) := by
  rw [compare_eq_eq_iff]
  constructor
  · intro heq hfilled
    obtain rfl := heq.mp hfilled
    exact ⟨rfl, rfl⟩
  · intro hparts
    exact ⟨fun hfilled => (hparts hfilled).filled_eq_iff.mp hfilled, congrArg filled⟩

end Version

open Version in
/-- **The order of versions.**  Comparing is reflexive, turns round with its
    arguments and is transitive, for ties as for either direction, and comparing
    values that need not be comparable gives the same answer.  Two versions tie
    exactly if they are equal once zeros stand for the missing numbers.  So a tie
    is the same as equality unless the two are then equal and miss different
    numbers.  Such a pair there is wherever a number is missing: a version and its
    filled form. -/
theorem versions_ordered_up_to_zeros (a b c : Version) :
    a.compare a = .eq
    ∧ b.compare a = (a.compare b).swap
    ∧ (∀ o, a.compare b = o → b.compare c = o → a.compare c = o)
    ∧ ((a.compare b).isLE → (b.compare c).isLE → (a.compare c).isLE)
    ∧ a.partialCompare b = some (a.compare b)
    ∧ (a.compare b = .eq ↔ a.filled = b.filled)
    ∧ ((a.compare b = .eq ↔ a = b) ↔ (a.filled = b.filled → SameParts a b))
    ∧ a.compare a.filled = .eq
    ∧ (SameParts a a.filled ↔ a.minor.isSome ∧ a.patch.isSome) := by
  refine ⟨Std.ReflCmp.compare_self, Std.OrientedCmp.eq_swap, fun _ => compare_trans,
    Std.TransCmp.isLE_trans, rfl, compare_eq_eq_iff, tie_iff_eq_iff, ?_, ?_⟩
  · -- filling in zeros twice changes nothing
    exact compare_eq_eq_iff.mpr rfl
  · exact Iff.rfl

/-- Three versions in a row: 6.99, 7.15 without a patch, and its first patch. -/
theorem versions_ordered_up_to_zeros_of_three :
    Version.compare ⟨6, some 99, none⟩ ⟨7, some 15, none⟩ = .lt
      ∧ Version.compare ⟨7, some 15, none⟩ ⟨7, some 15, some 1⟩ = .lt
      ∧ Version.compare ⟨6, some 99, none⟩ ⟨7, some 15, some 1⟩ = .lt
      ∧ (Version.compare ⟨6, some 99, none⟩ ⟨7, some 15, none⟩ = .eq
        ↔ (⟨6, some 99, none⟩ : Version) = ⟨7, some 15, none⟩) := by
  obtain ⟨-, -, htrans, -, -, -, hties, -, -⟩ :=
    versions_ordered_up_to_zeros ⟨6, some 99, none⟩ ⟨7, some 15, none⟩ ⟨7, some 15, some 1⟩
  have hfirst : Version.compare ⟨6, some 99, none⟩ ⟨7, some 15, none⟩ = .lt := by decide
  have hsecond : Version.compare ⟨7, some 15, none⟩ ⟨7, some 15, some 1⟩ = .lt := by decide
  exact ⟨hfirst, hsecond, htrans .lt hfirst hsecond, hties.mpr (by decide)⟩

/-- Ties need not be equal: 7 and 7.0 tie and are two versions. -/
theorem order_ties_need_not_be_equal :
    Version.compare ⟨7, none, none⟩ ⟨7, some 0, none⟩ = .eq
      ∧ (⟨7, none, none⟩ : Version) ≠ ⟨7, some 0, none⟩
      ∧ ¬ ∀ a b : Version, a.compare b = .eq ↔ a = b := by
  have htie : Version.compare ⟨7, none, none⟩ ⟨7, some 0, none⟩ = .eq := by decide
  have hne : (⟨7, none, none⟩ : Version) ≠ ⟨7, some 0, none⟩ := by decide
  exact ⟨htie, hne, fun hall => hne ((hall _ _).mp htie)⟩

end ZWaveHost
