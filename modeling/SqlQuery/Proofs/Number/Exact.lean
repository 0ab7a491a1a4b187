import Mathlib.Algebra.Order.Field.Power
import Mathlib.Data.Rat.Cast.Order
import Mathlib.Tactic.Linarith
import Mathlib.Tactic.Ring
import SqlQuery.Proofs.Number.Integers
import SqlQuery.Value

/-! # The numbers that doubles are

A finite double is a rational number, a significand times a power of two with a sign. The integers
among the doubles are those that are integers as rational numbers, and doubles are ordered as their
numbers are. So a value counts as an integer of 64 bits exactly if it is one, although the range is
told by comparing doubles, and its end is no double.
-/

namespace SqlQuery

/-- A power of two on one side, or its inverse on the other. -/
theorem natCast_mul_zpow_eq_iff (significand size : Nat) (exponent : Int) :
    (significand : ℚ) * 2 ^ exponent = size ↔
      significand * 2 ^ exponent.toNat = size * 2 ^ (-exponent).toNat := by
  have positive : (0 : ℚ) < 2 ^ (-exponent).toNat := by positivity
  have power : (2 : ℚ) ^ exponent * 2 ^ (-exponent).toNat = 2 ^ exponent.toNat := by
    rw [← zpow_natCast, ← zpow_natCast, ← zpow_add₀ (by decide)]
    congr 1
    omega
  rw [← mul_left_inj' positive.ne', mul_assoc, power]
  norm_cast

namespace Binary64

/-- The number that a finite double is. -/
def toRat? (x : Binary64) : Option ℚ :=
  x.decode?.map fun (significand, exponent) =>
    (if x.isNegative then -1 else 1) * (significand * 2 ^ exponent)

theorem toRat?_eq_none_iff {x : Binary64} : x.toRat? = none ↔ x.isFinite = false := by
  rw [toRat?, Option.map_eq_none_iff, decode?, BinaryFormat.decode?, isFinite,
    decide_eq_false_iff_not, Nat.not_lt]
  dsimp only
  split
  · rename_i special
    exact iff_of_true rfl special
  · rename_i finite
    split <;> exact iff_of_false (Option.some_ne_none _) finite

theorem toRat?_eq_intCast_iff {x : Binary64} {n : Int} :
    x.toRat? = some (n : ℚ) ↔ x.toInt? = some n := by
  simp only [toRat?, toInt?_eq_some_iff, Option.map_eq_some_iff, Prod.exists]
  refine exists₂_congr fun significand exponent => and_congr_right fun _ => ?_
  simp only [← natCast_mul_zpow_eq_iff]
  have magnitude : (0 : ℚ) ≤ significand * 2 ^ exponent := by positivity
  constructor
  · intro exact
    refine ⟨n.natAbs, ?_, ?_⟩
    · rw [Nat.cast_natAbs, Int.cast_abs, ← exact, abs_mul, abs_of_nonneg magnitude]
      split <;> simp
    · split at exact
      · have sign : (n : ℚ) ≤ 0 := by linarith
        rw [Int.cast_nonpos] at sign
        rw [if_pos ‹_›]
        omega
      · have sign : (0 : ℚ) ≤ n := by linarith
        rw [Int.cast_nonneg_iff] at sign
        rw [if_neg ‹_›]
        omega
  · rintro ⟨size, exact, rfl⟩
    rw [exact]
    split <;> simp

/-! ## Doubles without fraction -/

/-- A double without fraction is the integer that is left when the fraction is dropped. -/
theorem toInt?_eq_truncate? (x : Binary64) :
    x.toInt? = if x.isWhole then x.truncate? else none := by
  rw [toInt?, isWhole, truncate?]
  cases x.decode? with
  | none => rfl
  | some parts =>
    obtain ⟨significand, exponent⟩ := parts
    simp only [Option.any_some, Option.map_some, Bool.or_eq_true, decide_eq_true_eq, Nat.pow_eq]
    by_cases up : 0 ≤ exponent
    · simp [up]
    · by_cases whole : significand % 2 ^ (-exponent).toNat = 0 <;> simp [up, whole]

theorem isWhole_iff (x : Binary64) : x.isWhole = true ↔ ∃ n : Int, x.toRat? = some (n : ℚ) := by
  simp only [toRat?_eq_intCast_iff, toInt?_eq_truncate?]
  cases whole : x.isWhole with
  | false => simp
  | true =>
    rw [isWhole, Option.any_eq_true] at whole
    obtain ⟨parts, decoded, -⟩ := whole
    simp [truncate?, decoded]

theorem truncate?_eq {x : Binary64} {n : Int} (exact : x.toRat? = some (n : ℚ)) :
    x.truncate? = some n := by
  have whole := x.isWhole_iff.mpr ⟨n, exact⟩
  rw [← toRat?_eq_intCast_iff.mp exact, toInt?_eq_truncate?, if_pos whole]

/-- In the range, the cast of a double that is an integer is this integer. -/
theorem toInt64_eq {x : Binary64} {n : Int64} (exact : x.toRat? = some (n.toInt : ℚ)) :
    x.toInt64 = n := by
  rw [toInt64, truncate?_eq exact]
  dsimp only
  rw [min_eq_left n.toInt_le, max_eq_right n.minValue_le_toInt, Int64.ofInt_toInt]

/-! ## The order of doubles -/

/-- A finite double by its sign and by its size in units of the least positive double. -/
theorem exists_size {x : Binary64} {number : ℚ} (exact : x.toRat? = some number) :
    ∃ steps significand : Nat, significand < 2 ^ 53 ∧ (steps = 0 ∨ 2 ^ 52 ≤ significand) ∧
      x.magnitude = steps * 2 ^ 52 + significand ∧
      number = ((if x.isNegative then -(significand * 2 ^ steps : Nat) else
        (significand * 2 ^ steps : Nat) : Int) : ℚ) * 2 ^ (-1074 : Int) := by
  obtain ⟨⟨significand, exponent⟩, decoded, rfl⟩ := Option.map_eq_some_iff.mp exact
  obtain ⟨steps, exponent_eq, small, normal, magnitude⟩ : ∃ steps : Nat,
      exponent = steps + -1074 ∧ significand < 2 ^ 53 ∧ (steps = 0 ∨ 2 ^ 52 ≤ significand) ∧
        x.magnitude = steps * 2 ^ 52 + significand := by
    obtain ⟨small, ⟨magnitude, -, rfl⟩ | ⟨steps, rfl, normal, magnitude⟩⟩ :=
      magnitude_of_decode? decoded
    · exact ⟨0, rfl, small, .inl rfl, by omega⟩
    · exact ⟨steps, by omega, small, .inr normal, magnitude⟩
  refine ⟨steps, significand, small, normal, magnitude, ?_⟩
  dsimp only
  rw [exponent_eq, zpow_add₀ (by norm_num), zpow_natCast]
  generalize (2 : ℚ) ^ (-1074 : Int) = unit
  split <;> push_cast <;> ring

/-- From a later binade on, both the magnitude and the size are greater. -/
theorem lt_of_steps_lt {steps steps' significand significand' : Nat} (later : steps < steps')
    (small : significand < 2 ^ 53) (normal : 2 ^ 52 ≤ significand') :
    steps * 2 ^ 52 + significand < steps' * 2 ^ 52 + significand' ∧
      significand * 2 ^ steps < significand' * 2 ^ steps' := by
  refine ⟨by omega, ?_⟩
  calc significand * 2 ^ steps < 2 ^ 53 * 2 ^ steps :=
        Nat.mul_lt_mul_of_pos_right small (Nat.two_pow_pos steps)
    _ = 2 ^ 52 * 2 ^ (steps + 1) := by rw [Nat.pow_succ 2 steps]; omega
    _ ≤ significand' * 2 ^ steps' :=
        Nat.mul_le_mul normal (Nat.pow_le_pow_right (by decide) later)

/-- Magnitudes are ordered as the sizes are. -/
theorem magnitude_lt_iff {steps steps' significand significand' : Nat}
    (small : significand < 2 ^ 53) (normal : steps = 0 ∨ 2 ^ 52 ≤ significand)
    (small' : significand' < 2 ^ 53) (normal' : steps' = 0 ∨ 2 ^ 52 ≤ significand') :
    steps * 2 ^ 52 + significand < steps' * 2 ^ 52 + significand' ↔
      significand * 2 ^ steps < significand' * 2 ^ steps' := by
  rcases lt_trichotomy steps steps' with later | rfl | earlier
  · have both := lt_of_steps_lt later small (normal'.resolve_left (by omega))
    exact iff_of_true both.1 both.2
  · rw [Nat.mul_lt_mul_right (Nat.two_pow_pos steps)]
    omega
  · have both := lt_of_steps_lt earlier small' (normal.resolve_left (by omega))
    exact iff_of_false both.1.not_gt both.2.not_gt

theorem place?_eq {x : Binary64} {number : ℚ} (exact : x.toRat? = some number) :
    x.place? = some (if x.isNegative then -(x.magnitude : Int) else x.magnitude) := by
  obtain ⟨parts, decoded, -⟩ := Option.map_eq_some_iff.mp exact
  have finite : x.isNaN = false := by
    rw [decode?, BinaryFormat.decode?] at decoded
    split at decoded
    · contradiction
    · rw [isNaN, decide_eq_false_iff_not]
      omega
  rw [place?, finite, if_neg (by decide)]

variable {x y : Binary64} {first second : ℚ}

theorem isLess_iff (exact : x.toRat? = some first) (exact' : y.toRat? = some second) :
    x.isLess y = true ↔ first < second := by
  rw [isLess, compares, place?_eq exact, place?_eq exact']
  obtain ⟨steps, significand, small, normal, magnitude, rfl⟩ := exists_size exact
  obtain ⟨steps', significand', small', normal', magnitude', rfl⟩ := exists_size exact'
  have less := magnitude_lt_iff small normal small' normal'
  have greater := magnitude_lt_iff small' normal' small normal
  have zero : significand * 2 ^ steps = 0 ↔ significand = 0 :=
    Nat.mul_eq_zero.trans (or_iff_left (Nat.two_pow_pos steps).ne')
  have zero' : significand' * 2 ^ steps' = 0 ↔ significand' = 0 :=
    Nat.mul_eq_zero.trans (or_iff_left (Nat.two_pow_pos steps').ne')
  have unit : (0 : ℚ) < 2 ^ (-1074 : Int) := by positivity
  rw [mul_lt_mul_iff_left₀ unit, Int.cast_lt, magnitude, magnitude', decide_eq_true_eq]
  generalize significand * 2 ^ steps = size at *
  generalize significand' * 2 ^ steps' = size' at *
  split <;> split <;> omega

theorem isAtMost_iff (exact : x.toRat? = some first) (exact' : y.toRat? = some second) :
    x.isAtMost y = true ↔ first ≤ second := by
  rw [← not_lt, ← isLess_iff exact' exact, isAtMost, isLess, compares, compares, place?_eq exact,
    place?_eq exact', decide_eq_true_eq, decide_eq_true_eq, not_lt]

end Binary64

namespace Value

/-- A value that is an integer of 64 bits: the integer itself, or a double that is this number. -/
inductive IsInteger (n : Int64) : Value → Prop
  | int : IsInteger n (int n)
  | float {x : Binary64} (exact : x.toRat? = some (n.toInt : ℚ)) : IsInteger n (float x)

theorem toRat?_leastDouble : leastDouble.toRat? = some (Int64.minValue.toInt : ℚ) :=
  Binary64.toRat?_eq_intCast_iff.mpr (by decide +kernel)

/-- The end of the range is rounded up. -/
theorem toRat?_greatestDouble :
    greatestDouble.toRat? = some ((Int64.maxValue.toInt + 1 : Int) : ℚ) :=
  Binary64.toRat?_eq_intCast_iff.mpr (by decide +kernel)

/-- A double passes the checks if it is an integer in the range. -/
theorem inRange_iff (x : Binary64) :
    (x.isWhole && leastDouble.isAtMost x && x.isLess greatestDouble) = true ↔
      ∃ n : Int64, x.toRat? = some (n.toInt : ℚ) := by
  rw [Bool.and_eq_true, Bool.and_eq_true, Binary64.isWhole_iff]
  constructor
  · rintro ⟨⟨⟨n, exact⟩, low⟩, high⟩
    rw [Binary64.isAtMost_iff toRat?_leastDouble exact, Int.cast_le] at low
    rw [Binary64.isLess_iff exact toRat?_greatestDouble, Int.cast_lt] at high
    refine ⟨Int64.ofInt n, ?_⟩
    rwa [Int64.toInt_ofInt_of_le low high]
  · rintro ⟨n, exact⟩
    rw [Binary64.isAtMost_iff toRat?_leastDouble exact, Int.cast_le,
      Binary64.isLess_iff exact toRat?_greatestDouble, Int.cast_lt]
    exact ⟨⟨⟨_, exact⟩, n.minValue_le_toInt⟩, Int.lt_add_one_iff.mpr n.toInt_le⟩

theorem toInt?_eq_some_iff {value : Value} {n : Int64} :
    value.toInt? = some n ↔ value.IsInteger n := by
  cases value with
  | null | bool | text => exact ⟨nofun, nofun⟩
  | int m =>
    constructor
    · intro same
      cases same
      exact .int
    · rintro ⟨⟩
      rfl
  | float x =>
    rw [toInt?]
    constructor
    · intro same
      split at same
      · rename_i inRange
        obtain ⟨m, exact⟩ := (inRange_iff x).mp inRange
        rw [Binary64.toInt64_eq exact] at same
        cases same
        exact .float exact
      · contradiction
    · rintro ⟨⟩
      rename_i exact
      rw [if_pos ((inRange_iff x).mpr ⟨n, exact⟩), Binary64.toInt64_eq exact]

/-- A value that is no integer of 64 bits: it is no number, it is not finite, it has a fraction, or
it is out of range. -/
inductive IsOther : Value → Prop
  | null : IsOther null
  | bool (value : Bool) : IsOther (bool value)
  | text (value : String) : IsOther (text value)
  | special {x : Binary64} (infinite : x.isFinite = false) : IsOther (float x)
  | fraction {x : Binary64} {number : ℚ} (exact : x.toRat? = some number)
    (fractional : ∀ n : Int, number ≠ n) : IsOther (float x)
  | low {x : Binary64} {number : ℚ} (exact : x.toRat? = some number) (below : number < -2 ^ 63) :
    IsOther (float x)
  | high {x : Binary64} {number : ℚ} (exact : x.toRat? = some number) (beyond : 2 ^ 63 ≤ number) :
    IsOther (float x)

theorem isOther_float_iff (x : Binary64) :
    (float x).IsOther ↔ ∀ n : Int64, x.toRat? ≠ some (n.toInt : ℚ) := by
  constructor
  · intro other n exact
    cases other with
    | special infinite => simp [Binary64.toRat?_eq_none_iff.mpr infinite] at exact
    | fraction exact' fractional => exact fractional _ (Option.some.inj (exact'.symm.trans exact))
    | low exact' below =>
      rw [Option.some.inj (exact'.symm.trans exact)] at below
      have least := n.le_toInt
      norm_cast at below
      omega
    | high exact' beyond =>
      rw [Option.some.inj (exact'.symm.trans exact)] at beyond
      have greatest := n.toInt_lt
      norm_cast at beyond
      omega
  · intro none
    cases exact : x.toRat? with
    | none => exact .special (Binary64.toRat?_eq_none_iff.mp exact)
    | some number =>
      by_cases whole : ∃ n : Int, number = n
      · obtain ⟨n, rfl⟩ := whole
        by_cases below : n < -2 ^ 63
        · exact .low exact (by exact_mod_cast below)
        · by_cases beyond : 2 ^ 63 ≤ n
          · exact .high exact (by exact_mod_cast beyond)
          · have inRange : (Int64.ofInt n).toInt = n :=
              Int64.toInt_ofInt_of_le (by omega) (by omega)
            exact absurd (inRange.symm ▸ exact) (none (Int64.ofInt n))
      · exact .fraction exact (not_exists.mp whole)

/-- A value is read as an integer of 64 bits exactly if it is one. Every other value is read as none,
so the cast of a double never leaves its range and never drops a fraction. -/
theorem toInt?_exact (value : Value) :
    (∀ n, value.toInt? = some n ↔ value.IsInteger n) ∧ (value.toInt? = none ↔ value.IsOther) := by
  refine ⟨fun n => toInt?_eq_some_iff, ?_⟩
  rw [Option.eq_none_iff_forall_ne_some]
  simp only [ne_eq, toInt?_eq_some_iff]
  cases value with
  | null => exact iff_of_true nofun .null
  | bool value => exact iff_of_true nofun (.bool value)
  | text value => exact iff_of_true nofun (.text value)
  | int n => exact iff_of_false (fun none => none n .int) nofun
  | float x =>
    rw [isOther_float_iff]
    refine forall_congr' fun n => not_congr ⟨?_, .float⟩
    rintro ⟨⟩
    assumption

/-- The two ends of the range. -/
example : (float leastDouble).toInt? = some Int64.minValue ∧ (float greatestDouble).toInt? = none := by
  decide +kernel

end Value

end SqlQuery
