import Mathlib.Data.Nat.Log
import Mathlib.Tactic.FieldSimp
import Mathlib.Tactic.Ring
import SqlQuery.Proofs.Number.Exact

/-! # Rounding to the nearest double

The word that a quotient is rounded to is told from the quotient as a rational number: its binary
exponent decides the unit of the last place, and it is rounded to a whole number of these units. So
every number in the interval around a double is rounded to that double, also below a power of two,
where the units of the lower half are only half as wide.
-/

namespace SqlQuery

theorem two_zpow_pos (exponent : Int) : (0 : ℚ) < 2 ^ exponent := by positivity

theorem two_zpow_lt_iff {m n : Int} : (2 : ℚ) ^ m < 2 ^ n ↔ m < n :=
  zpow_lt_zpow_iff_right₀ (by norm_num)

theorem two_zpow_add (m n : Int) : (2 : ℚ) ^ (m + n) = 2 ^ m * 2 ^ n :=
  zpow_add₀ (by norm_num) m n

/-! ## Quotients -/

/-- A scaled quotient is the quotient divided by a power of two. -/
theorem scaledQuotient_eq (numerator denominator : Nat) (exponent : Int) :
    ((scaledQuotient numerator denominator exponent).1 : ℚ) /
        (scaledQuotient numerator denominator exponent).2 =
      (numerator : ℚ) / denominator / 2 ^ exponent := by
  rw [scaledQuotient]
  split
  · rename_i up
    obtain ⟨power, rfl⟩ := Int.eq_ofNat_of_zero_le up
    simp [div_div]
  · rename_i down
    obtain ⟨power, same⟩ := Int.eq_ofNat_of_zero_le (by omega : 0 ≤ -exponent)
    obtain rfl : exponent = -(power : Int) := by omega
    simp
    field_simp

theorem scaledQuotient_snd_pos {numerator denominator : Nat} (positive : 0 < denominator)
    (exponent : Int) : 0 < (scaledQuotient numerator denominator exponent).2 := by
  rw [scaledQuotient]
  split
  · exact Nat.mul_pos positive (Nat.two_pow_pos _)
  · exact positive

/-- Scaled by an exponent, a quotient reaches one if it reaches that power of two. -/
theorem scaledQuotient_le_iff (numerator : Nat) {denominator : Nat} (positive : 0 < denominator)
    (exponent : Int) : (scaledQuotient numerator denominator exponent).2 ≤
        (scaledQuotient numerator denominator exponent).1 ↔
      (2 : ℚ) ^ exponent ≤ numerator / denominator := by
  have scale := two_zpow_pos exponent
  have below : (0 : ℚ) < (scaledQuotient numerator denominator exponent).2 := by
    exact_mod_cast scaledQuotient_snd_pos positive exponent
  rw [← one_le_div₀ scale, ← scaledQuotient_eq, one_le_div₀ below, Nat.cast_le]

/-- A number lies between two powers of two whose exponents are next to each other. -/
theorem log2_bounds {n : Nat} (positive : 0 < n) :
    (2 : ℚ) ^ (Nat.log2 n : Int) ≤ n ∧ (n : ℚ) < 2 * 2 ^ (Nat.log2 n : Int) := by
  rw [zpow_natCast]
  have below : 2 ^ Nat.log2 n ≤ n := Nat.log2_self_le (Nat.ne_of_gt positive)
  have above : n < 2 * 2 ^ Nat.log2 n := by
    rw [← Nat.pow_succ']
    exact Nat.lt_log2_self
  exact ⟨by exact_mod_cast below, by exact_mod_cast above⟩

/-- The binary exponent of a quotient. -/
theorem floorLog2_spec {numerator denominator : Nat} (above : 0 < numerator)
    (below : 0 < denominator) :
    (2 : ℚ) ^ floorLog2 numerator denominator ≤ numerator / denominator ∧
      (numerator / denominator : ℚ) < 2 * 2 ^ floorLog2 numerator denominator := by
  obtain ⟨numeratorLow, numeratorHigh⟩ := log2_bounds above
  obtain ⟨denominatorLow, denominatorHigh⟩ := log2_bounds below
  have positive : (0 : ℚ) < denominator := by exact_mod_cast below
  have split := two_zpow_add (Nat.log2 numerator - Nat.log2 denominator) (Nat.log2 denominator)
  rw [sub_add_cancel] at split
  have reached := scaledQuotient_le_iff numerator below (Nat.log2 numerator - Nat.log2 denominator)
  rw [floorLog2]
  dsimp only
  generalize (Nat.log2 numerator : Int) - Nat.log2 denominator = estimate at *
  rw [split] at numeratorLow numeratorHigh
  have scale := two_zpow_pos estimate
  split
  · rename_i least
    refine ⟨reached.mp least, ?_⟩
    rw [div_lt_iff₀ positive]
    nlinarith
  · rename_i less
    have halves : (2 : ℚ) ^ estimate = 2 * 2 ^ (estimate - 1) := by
      rw [← zpow_one_add₀ (by norm_num), add_sub_cancel]
    rw [← halves]
    refine ⟨?_, not_le.mp (reached.not.mp less)⟩
    rw [le_div_iff₀ positive]
    nlinarith [two_zpow_pos (estimate - 1)]

/-! ## Nearest integers -/

/-- A number whose nearest integer is given; half of an odd and an even one goes to the even one. -/
def RoundsTo (x : ℚ) (n : Nat) : Prop :=
  if n % 2 = 0 then n - 1 / 2 ≤ x ∧ x ≤ n + 1 / 2 else n - 1 / 2 < x ∧ x < n + 1 / 2

theorem RoundsTo.bounds {x : ℚ} {n : Nat} (near : RoundsTo x n) :
    n - 1 / 2 ≤ x ∧ x ≤ n + 1 / 2 := by
  rw [RoundsTo] at near
  split at near
  · exact near
  · exact near.imp le_of_lt le_of_lt

theorem roundQuotient_eq {numerator denominator n : Nat} (positive : 0 < denominator)
    (near : RoundsTo (numerator / denominator) n) : roundQuotient numerator denominator = n := by
  have denominator_pos : (0 : ℚ) < denominator := by exact_mod_cast positive
  have whole : (numerator : ℚ) = denominator * (numerator / denominator : Nat) +
      (numerator % denominator : Nat) := by
    exact_mod_cast (Nat.div_add_mod numerator denominator).symm
  have part : ((numerator % denominator : Nat) : ℚ) < denominator := by
    exact_mod_cast Nat.mod_lt numerator positive
  have rest : (0 : ℚ) ≤ (numerator % denominator : Nat) := Nat.cast_nonneg _
  rw [roundQuotient]
  generalize numerator / denominator = quotient at *
  generalize numerator % denominator = remainder at *
  -- All comparisons are with multiples of half the denominator.
  have quotient_eq : (numerator : ℚ) / denominator = quotient + remainder / denominator := by
    rw [whole]
    field_simp
  have bounds := near.bounds
  rw [RoundsTo] at near
  rw [quotient_eq] at near bounds
  have fraction_nonneg : (0 : ℚ) ≤ remainder / denominator :=
    div_nonneg rest denominator_pos.le
  have fraction_lt : (remainder : ℚ) / denominator < 1 := (div_lt_one₀ denominator_pos).mpr part
  have below : (quotient : ℚ) < n + 1 := by linarith
  have above : (n : ℚ) < quotient + 2 := by linarith
  norm_cast at below above
  have more : denominator < 2 * remainder ↔ (1 / 2 : ℚ) < remainder / denominator := by
    rw [lt_div_iff₀ denominator_pos, ← Nat.cast_lt (α := ℚ)]
    push_cast
    constructor <;> intro <;> linarith
  have half : denominator = 2 * remainder ↔ (1 / 2 : ℚ) = remainder / denominator := by
    rw [eq_div_iff denominator_pos.ne', ← Nat.cast_inj (R := ℚ)]
    push_cast
    constructor <;> intro <;> linarith
  simp only [more, half]
  obtain rfl | rfl : n = quotient ∨ n = quotient + 1 := by omega
  · rw [if_neg]
    rintro (up | ⟨tie, odd⟩)
    · linarith
    · rw [if_neg (by omega)] at near
      linarith
  · rw [if_pos]
    push_cast at near bounds
    rcases lt_or_eq_of_le (by linarith : (1 / 2 : ℚ) ≤ remainder / denominator) with up | tie
    · exact .inl up
    · refine .inr ⟨tie, ?_⟩
      by_contra even
      rw [if_neg (by omega)] at near
      linarith

/-! ## Nearest words -/

namespace BinaryFormat

variable (format : BinaryFormat)

/-- The nearest word by the units of its last place, provided that the exponent is the one of the
quotient or the least. -/
theorem nearestWord_eq {numerator denominator steps units : Nat} (positive : 0 < denominator)
    (near : RoundsTo (numerator / denominator / 2 ^ (format.leastExponent + steps)) units)
    (low : steps = 0 ∨ (2 : ℚ) ^ (format.leastExponent + steps + format.fractionBits) ≤
      numerator / denominator)
    (high : (numerator / denominator : ℚ) <
      2 * 2 ^ (format.leastExponent + steps + format.fractionBits))
    (finite : steps * 2 ^ format.fractionBits + units ≤ format.infinityWord) :
    format.nearestWord numerator denominator = steps * 2 ^ format.fractionBits + units := by
  rw [nearestWord]
  split
  · rename_i zero
    subst zero
    have first : steps = 0 := by
      refine low.resolve_right fun reached => ?_
      rw [Nat.cast_zero, zero_div] at reached
      exact absurd reached (not_le.mpr (two_zpow_pos _))
    have none := near.bounds.1
    rw [Nat.cast_zero, zero_div, zero_div] at none
    have small : (units : ℚ) < 1 := by linarith
    rw [Nat.cast_lt_one] at small
    rw [first, small, Nat.zero_mul]
  · rename_i given
    obtain ⟨least, most⟩ := floorLog2_spec (Nat.pos_of_ne_zero given) positive
    have exponent_eq : max format.leastExponent
        (floorLog2 numerator denominator - format.fractionBits) = format.leastExponent + steps := by
      have twice (exponent : Int) : 2 * (2 : ℚ) ^ exponent = 2 ^ (exponent + 1) := by
        rw [zpow_add_one₀ (by norm_num), mul_comm]
      rw [twice] at high most
      have atMost := two_zpow_lt_iff.mp (lt_of_le_of_lt least high)
      rcases low with rfl | reached
      · omega
      · have atLeast := two_zpow_lt_iff.mp (lt_of_le_of_lt reached most)
        omega
    dsimp only
    rw [exponent_eq, add_sub_cancel_left, Int.toNat_natCast, Nat.pow_eq]
    rw [← scaledQuotient_eq] at near
    rw [roundQuotient_eq (scaledQuotient_snd_pos positive _) near]
    exact Nat.min_eq_right finite

theorem nearestWord_double {numerator denominator steps units : Nat} (positive : 0 < denominator)
    (near : RoundsTo (numerator / denominator / 2 ^ (-1074 + (steps : Int))) units)
    (low : steps = 0 ∨ (2 : ℚ) ^ (-1074 + (steps : Int) + 52) ≤ numerator / denominator)
    (high : (numerator / denominator : ℚ) < 2 * 2 ^ (-1074 + (steps : Int) + 52))
    (finite : steps * 2 ^ 52 + units ≤ 2047 * 2 ^ 52) :
    double.nearestWord numerator denominator = steps * 2 ^ 52 + units :=
  double.nearestWord_eq positive near low high finite

/-- What is close below a power of two rounds to it, in the units of the binade below. -/
theorem nearestWord_below_power {numerator denominator steps : Nat} (positive : 0 < denominator)
    (close : (2 ^ 52 - 1 / 4 : ℚ) ≤
      numerator / denominator / 2 ^ (-1074 + ((steps + 1 : Nat) : Int)))
    (less : (numerator / denominator : ℚ) / 2 ^ (-1074 + ((steps + 1 : Nat) : Int)) < 2 ^ 52)
    (finite : steps < 2045) :
    double.nearestWord numerator denominator = steps * 2 ^ 52 + 2 ^ 53 := by
  have halves : (2 : ℚ) ^ (-1074 + ((steps + 1 : Nat) : Int)) = 2 * 2 ^ (-1074 + (steps : Int)) := by
    rw [← zpow_one_add₀ (by norm_num)]
    congr 1
    push_cast
    ring
  rw [halves, ← div_div, div_right_comm] at close less
  apply nearestWord_double positive
  · rw [RoundsTo, if_pos (by norm_num)]
    push_cast
    constructor <;> linarith
  · right
    rw [two_zpow_add, zpow_ofNat, mul_comm, ← le_div_iff₀ (two_zpow_pos _)]
    linarith
  · rw [two_zpow_add, zpow_ofNat, mul_left_comm, mul_comm, ← div_lt_iff₀ (two_zpow_pos _)]
    linarith
  · omega

theorem exists_nearestWordOfDecimal (digits : Nat) (exponent : Int) :
    ∃ numerator denominator : Nat, 0 < denominator ∧
      (numerator / denominator : ℚ) = digits * 10 ^ exponent ∧
      format.nearestWordOfDecimal digits exponent = format.nearestWord numerator denominator := by
  rw [nearestWordOfDecimal]
  split
  · rename_i up
    refine ⟨_, _, Nat.one_pos, ?_, rfl⟩
    obtain ⟨power, rfl⟩ := Int.eq_ofNat_of_zero_le up
    simp
  · rename_i down
    refine ⟨_, _, Nat.pow_pos (by decide), ?_, rfl⟩
    obtain ⟨power, same⟩ := Int.eq_ofNat_of_zero_le (by omega : 0 ≤ -exponent)
    obtain rfl : exponent = -(power : Int) := by omega
    simp [div_eq_mul_inv]

end BinaryFormat

/-! ## The interval around a double -/

namespace Binary64

/-- A number that rounds to the magnitude of a finite double: it rounds to the significand in units
of the last place, and below a power of two in units half as wide. -/
def IsNear (x : Binary64) (value : ℚ) : Prop :=
  ∃ significand exponent, x.decode? = some (significand, exponent) ∧
    RoundsTo (value / 2 ^ exponent) significand ∧
    (significand = 2 ^ 52 → -1074 < exponent → significand - 1 / 4 ≤ value / 2 ^ exponent)

variable {x : Binary64} {value : ℚ}

theorem magnitude_lt_of_decode? {significand : Nat} {exponent : Int}
    (decoded : x.decode? = some (significand, exponent)) : x.magnitude < 2047 * 2 ^ 52 := by
  rw [decode?, BinaryFormat.decode?] at decoded
  split at decoded
  · contradiction
  · exact Nat.not_le.mp ‹_›

theorem IsNear.nearestWord_eq (near : x.IsNear value) {numerator denominator : Nat}
    (positive : 0 < denominator) (quotient : (numerator / denominator : ℚ) = value) :
    BinaryFormat.double.nearestWord numerator denominator = x.magnitude := by
  obtain ⟨significand, exponent, decoded, rounds, narrow⟩ := near
  subst quotient
  have finite := magnitude_lt_of_decode? decoded
  obtain ⟨lower, upper⟩ := rounds.bounds
  obtain ⟨small, place⟩ := magnitude_of_decode? decoded
  have scale := two_zpow_pos exponent
  have below : (numerator / denominator : ℚ) < 2 * 2 ^ (exponent + 52) := by
    have most : (significand : ℚ) + 1 ≤ 2 ^ 53 := by exact_mod_cast small
    rw [two_zpow_add, zpow_ofNat, mul_left_comm, mul_comm, ← div_lt_iff₀ scale]
    linarith
  rcases place with ⟨magnitude, -, rfl⟩ | ⟨steps, place, normal, magnitude⟩
  · have word : BinaryFormat.double.nearestWord numerator denominator = 0 * 2 ^ 52 + significand :=
      BinaryFormat.nearestWord_double positive rounds (.inl rfl) below (by omega)
    omega
  · obtain rfl : exponent = -1074 + steps := by omega
    rw [magnitude]
    by_cases reached : steps = 0 ∨
        (2 : ℚ) ^ (-1074 + (steps : Int) + 52) ≤ numerator / denominator
    · exact BinaryFormat.nearestWord_double positive rounds reached below (by omega)
    · -- Only a power of two has numbers of the binade below it in its interval.
      obtain ⟨later, less⟩ := not_or.mp reached
      rw [not_le, two_zpow_add, zpow_ofNat, mul_comm, ← div_lt_iff₀ scale] at less
      have power : significand = 2 ^ 52 := by
        have bound : (significand : ℚ) < 2 ^ 52 + 1 := by linarith
        norm_cast at bound
        omega
      have close := narrow power (by omega)
      subst power
      push_cast at close
      obtain ⟨steps, rfl⟩ := Nat.exists_eq_succ_of_ne_zero later
      rw [BinaryFormat.nearestWord_below_power positive close less (by omega)]
      omega

/-- No number from the power of two after the greatest double on is near a double. -/
theorem IsNear.lt (near : x.IsNear value) : value < 2 ^ (1024 : Int) := by
  obtain ⟨significand, exponent, decoded, rounds, -⟩ := near
  have finite := magnitude_lt_of_decode? decoded
  obtain ⟨small, place⟩ := magnitude_of_decode? decoded
  have bounded : exponent ≤ 971 := by
    rcases place with ⟨-, -, rfl⟩ | ⟨steps, rfl, normal, magnitude⟩ <;> omega
  have most : (significand : ℚ) + 1 ≤ 2 ^ 53 := by exact_mod_cast small
  calc value < 2 ^ (53 : Int) * 2 ^ exponent := by
        rw [← div_lt_iff₀ (two_zpow_pos _), zpow_ofNat]
        linarith [rounds.bounds.2]
    _ = 2 ^ (53 + exponent) := (two_zpow_add _ _).symm
    _ ≤ 2 ^ (1024 : Int) := zpow_le_zpow_right₀ (by norm_num) (by omega)

/-- Numbers that are less than half of the least positive double are near zero only. -/
theorem IsNear.magnitude_eq_zero (near : x.IsNear value) (small : value < 2 ^ (-1075 : Int)) :
    x.magnitude = 0 := by
  obtain ⟨significand, exponent, decoded, rounds, -⟩ := near
  have zero : significand = 0 := by
    have least : -1074 ≤ exponent := by
      rcases (magnitude_of_decode? decoded).2 with ⟨-, -, rfl⟩ | ⟨steps, rfl, -, -⟩ <;> omega
    have unit : (2 : ℚ) ^ (-1075 : Int) ≤ 1 / 2 * 2 ^ exponent := by
      rw [show (-1075 : Int) = -1 + -1074 by decide, two_zpow_add, zpow_neg_one, one_div]
      gcongr
      norm_num
    have half : value / 2 ^ exponent < 1 / 2 := by
      rw [div_lt_iff₀ (two_zpow_pos _)]
      linarith
    have below : (significand : ℚ) < 1 := by linarith [rounds.bounds.1]
    exact Nat.cast_lt_one.mp below
  rcases (magnitude_of_decode? decoded).2 with ⟨magnitude, -, -⟩ | ⟨steps, -, normal, -⟩ <;> omega

theorem exists_decode?_of_toInt? {n : Int} (exact : x.toInt? = some n) :
    ∃ significand exponent, x.decode? = some (significand, exponent) ∧
      (significand : ℚ) * 2 ^ exponent = n.natAbs := by
  obtain ⟨significand, exponent, decoded, size, shifted, rfl⟩ := toInt?_eq_some_iff.mp exact
  have sized : (if x.isNegative then -(size : Int) else size).natAbs = size := by
    split <;> simp
  exact ⟨significand, exponent, decoded, by rwa [sized, natCast_mul_zpow_eq_iff]⟩

/-- The size of a double that is an integer is near it. -/
theorem isNear_natAbs {n : Int} (exact : x.toInt? = some n) : x.IsNear n.natAbs := by
  obtain ⟨significand, exponent, decoded, size⟩ := exists_decode?_of_toInt? exact
  refine ⟨significand, exponent, decoded, ?_, fun _ _ => ?_⟩
  · rw [← size, mul_div_cancel_right₀ _ (two_zpow_pos exponent).ne', RoundsTo]
    split <;> constructor <;> linarith
  · rw [← size, mul_div_cancel_right₀ _ (two_zpow_pos exponent).ne']
    linarith

/-- The double nearest to an integer is the integer, if any double is. -/
theorem toInt?_ofInt {n : Int} (exact : x.toInt? = some n) : (ofInt n).toInt? = some n := by
  obtain ⟨significand, exponent, decoded, size⟩ := exists_decode?_of_toInt? exact
  have word : BinaryFormat.double.nearestWord n.natAbs 1 = x.magnitude :=
    (isNear_natAbs exact).nearestWord_eq Nat.one_pos (by rw [Nat.cast_one, div_one])
  have bounded : x.magnitude < BinaryFormat.double.signBit := x.magnitude_lt
  refine toInt?_eq_some_iff.mpr ⟨significand, exponent, ?_, n.natAbs, ?_, ?_⟩
  · rw [ofInt, word, decode?, magnitude_ofMagnitude _ bounded]
    exact decoded
  · exact (natCast_mul_zpow_eq_iff _ _ _).mp size
  · rw [ofInt, word, isNegative_ofMagnitude _ bounded]
    split <;> rename_i sign <;> simp at sign <;> omega

end Binary64

/-! ## Decimals -/

theorem length_toDigits (n : Nat) : (Nat.toDigits 10 n).length = Nat.log 10 n + 1 := by
  induction n using Nat.strongRecOn with
  | ind n ih =>
    by_cases small : n < 10
    · rw [Nat.toDigits_of_lt_base small, Nat.log_of_lt small]
      rfl
    · have longer : Nat.log 10 n = Nat.log 10 (n / 10) + 1 :=
        Nat.log_of_one_lt_of_le (by decide) (by omega)
      rw [Nat.toDigits_of_base_le (by decide) (by omega), List.length_append, ih _ (by omega),
        longer]
      rfl

/-- Three binary digits make less than a decimal one. -/
theorem two_zpow_le_ten_zpow (n : Nat) : (2 : ℚ) ^ (3 * n : Int) ≤ 10 ^ (n : Int) := by
  rw [zpow_mul, zpow_natCast, zpow_natCast]
  gcongr
  norm_num

namespace Decimal

/-- The number that a decimal is. -/
def toRat (decimal : Decimal) : ℚ :=
  decimal.digits * 10 ^ decimal.exponent

variable {decimal : Decimal}

/-- A decimal lies between two powers of ten that are told from its length. -/
theorem toRat_bounds (positive : decimal.digits ≠ 0) {length : Int}
    (counted : (Nat.toDigits 10 decimal.digits).length = length) :
    (10 : ℚ) ^ (length - 1 + decimal.exponent) ≤ decimal.toRat ∧
      decimal.toRat < 10 ^ (length + decimal.exponent) := by
  have low := Nat.pow_log_le_self 10 positive
  have high := Nat.lt_pow_succ_log_self (by decide : 1 < 10) decimal.digits
  have ten : (10 : ℚ) ≠ 0 := by norm_num
  rw [length_toDigits] at counted
  rw [toRat, ← counted, zpow_add₀ ten, zpow_add₀ ten, Nat.cast_add_one, add_sub_cancel_right,
    ← Nat.cast_add_one, zpow_natCast, zpow_natCast]
  constructor
  · gcongr
    exact_mod_cast low
  · gcongr
    exact_mod_cast high

/-- A decimal near a double has this double as its nearest. -/
theorem nearestWord?_eq {x : Binary64} (near : x.IsNear decimal.toRat) :
    decimal.nearestWord? = some x.magnitude := by
  obtain ⟨numerator, denominator, positive, quotient, word⟩ :=
    BinaryFormat.double.exists_nearestWordOfDecimal decimal.digits decimal.exponent
  rw [near.nearestWord_eq positive quotient] at word
  have finite : x.magnitude < BinaryFormat.double.infinityWord := by
    obtain ⟨significand, exponent, decoded, -⟩ := near
    exact Binary64.magnitude_lt_of_decode? decoded
  rw [nearestWord?]
  split
  · rename_i zero
    rw [← word, zero]
    simp [BinaryFormat.nearestWordOfDecimal, BinaryFormat.nearestWord]
  · rename_i given
    obtain ⟨low, high⟩ := toRat_bounds given rfl
    dsimp only
    split
    · rename_i long
      have far : (10 : ℚ) ^ (400 : Int) ≤ decimal.toRat :=
        le_trans (zpow_le_zpow_right₀ (by norm_num) (by omega)) low
      have power := two_zpow_le_ten_zpow 400
      have order : (2 : ℚ) ^ (1024 : Int) < 2 ^ (3 * (400 : Nat) : Int) :=
        two_zpow_lt_iff.mpr (by decide)
      exact absurd (near.lt.trans order) (not_lt.mpr (power.trans far))
    · split
      · rename_i short
        have close : decimal.toRat < 10 ^ (-400 : Int) :=
          high.trans_le (zpow_le_zpow_right₀ (by norm_num) (by omega))
        have power : (10 : ℚ) ^ (-400 : Int) ≤ 2 ^ (-(3 * (400 : Nat)) : Int) := by
          rw [zpow_neg, zpow_neg]
          exact inv_anti₀ (two_zpow_pos _) (two_zpow_le_ten_zpow 400)
        have order : (2 : ℚ) ^ (-(3 * (400 : Nat)) : Int) < 2 ^ (-1075 : Int) :=
          two_zpow_lt_iff.mpr (by decide)
        rw [near.magnitude_eq_zero (close.trans (power.trans_lt order))]
      · rw [word, if_pos finite]

end Decimal

end SqlQuery
