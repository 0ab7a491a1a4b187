import SqlQuery.Proofs.Number.Numerals

/-! # Shortest decimals are read back

The shortest decimal of a double is found in the interval of the numbers that round to it. So the
numeral that a finite double is written as has this double as its nearest one, whatever the sign.
-/

namespace SqlQuery

namespace RoundingInterval

variable {interval : RoundingInterval} {tie : Tie}

theorem contains_iff {point : Nat} : interval.contains point = true ↔
    if interval.closed then interval.low ≤ point ∧ point ≤ interval.high
    else interval.low < point ∧ point < interval.high := by
  rw [contains]
  split <;> simp

theorem low_le_of_contains {point : Nat} (contained : interval.contains point = true) :
    interval.low ≤ point := by
  rw [contains_iff] at contained
  split at contained <;> omega

theorem contains_of_gridPoint? {step digits : Nat}
    (found : interval.gridPoint? tie step = some digits) :
    interval.contains (digits * step) = true := by
  unfold gridPoint? at found
  dsimp only at found
  split at found
  · contradiction
  · rename_i below _
    obtain rfl := Option.some.inj found
    exact below
  · rename_i _ above
    obtain rfl := Option.some.inj found
    exact above
  · rename_i below above
    split at found
    · obtain rfl := Option.some.inj found
      exact below
    · split at found
      · obtain rfl := Option.some.inj found
        exact above
      · cases tie with
        | toEven =>
          obtain rfl := Option.some.inj found
          split <;> assumption
        | away =>
          obtain rfl := Option.some.inj found
          exact above

/-- The search ends in the interval, if only its last resort lies there. -/
theorem contains_search (tie : Tie) {unit : Nat}
    (last : interval.contains (interval.value / unit * unit) = true) (places : Nat) :
    interval.contains ((interval.search tie unit places).1 *
      (unit * 10 ^ (interval.search tie unit places).2)) = true := by
  induction places with
  | zero =>
    rw [search, Nat.pow_zero, Nat.mul_one]
    cases point : interval.gridPoint? tie unit with
    | none => exact last
    | some digits => exact contains_of_gridPoint? point
  | succ places ih =>
    rw [search]
    split
    · rename_i digits point
      exact contains_of_gridPoint? point
    · exact ih

end RoundingInterval

namespace Binary64

/-! ## The interval of a double -/

variable {x : Binary64} {significand : Nat} {exponent : Int}

/-- The integers of an interval are counted in units of the last place. -/
theorem exists_scale (significand : Nat) (exponent : Int) : ∃ factor : Nat, 0 < factor ∧
    (factor : ℚ) * 10 ^ (roundingInterval significand exponent).2 = 2 ^ exponent ∧
    (roundingInterval significand exponent).1 =
      { low := (4 * significand - if significand = 2 ^ 52 ∧ -1074 < exponent then 1 else 2) * factor
        value := 4 * significand * factor
        high := (4 * significand + 2) * factor
        closed := significand % 2 = 0 } := by
  refine ⟨if 0 ≤ exponent then 2 ^ exponent.toNat else 5 ^ (-exponent).toNat, ?_, ?_, rfl⟩
  · split <;> positivity
  · rw [roundingInterval]
    dsimp only
    split
    · rename_i up
      obtain ⟨power, rfl⟩ := Int.eq_ofNat_of_zero_le up
      simp
    · rename_i down
      obtain ⟨power, same⟩ := Int.eq_ofNat_of_zero_le (by omega : 0 ≤ -exponent)
      obtain rfl : exponent = -(power : Int) := by omega
      rw [min_eq_left (by omega), neg_neg, Int.toNat_natCast, zpow_neg, zpow_neg, zpow_natCast,
        zpow_natCast, Nat.cast_pow, show (10 : ℚ) = 5 * 2 by norm_num, mul_pow]
      field_simp
      norm_num

/-- A point within two quarters of a unit rounds to the whole number of units. -/
theorem roundsTo_of_quarters {factor low point : Nat} (positive : 0 < factor)
    (wide : 4 * significand * factor ≤ low + 2 * factor)
    (contained : if significand % 2 = 0 then
        low ≤ 4 * point ∧ 4 * point ≤ (4 * significand + 2) * factor
      else low < 4 * point ∧ 4 * point < (4 * significand + 2) * factor) :
    RoundsTo (point / factor) significand := by
  have unit : (0 : ℚ) < factor := by exact_mod_cast positive
  rw [← Nat.cast_le (α := ℚ)] at wide
  push_cast at wide
  rw [RoundsTo]
  by_cases even : significand % 2 = 0
  · rw [if_pos even] at contained ⊢
    rw [← Nat.cast_le (α := ℚ), ← Nat.cast_le (α := ℚ)] at contained
    push_cast at contained
    rw [le_div_iff₀ unit, div_le_iff₀ unit]
    constructor <;> linarith
  · rw [if_neg even] at contained ⊢
    rw [← Nat.cast_lt (α := ℚ), ← Nat.cast_lt (α := ℚ)] at contained
    push_cast at contained
    rw [lt_div_iff₀ unit, div_lt_iff₀ unit]
    constructor <;> linarith

/-- What lies in the interval of a double rounds to it. -/
theorem isNear_of_contains (decoded : x.decode? = some (significand, exponent))
    (positive : significand ≠ 0) {point : Nat}
    (contained : (roundingInterval significand exponent).1.contains (4 * point) = true) :
    x.IsNear (point * 10 ^ (roundingInterval significand exponent).2) := by
  obtain ⟨factor, factor_pos, scale, interval⟩ := exists_scale significand exponent
  have unit : (0 : ℚ) < factor := by exact_mod_cast factor_pos
  have scaled : (point : ℚ) * 10 ^ (roundingInterval significand exponent).2 / 2 ^ exponent =
      point / factor := by
    rw [← scale]
    field_simp
  rw [interval, RoundingInterval.contains_iff] at contained
  simp only [decide_eq_true_eq] at contained
  refine ⟨significand, exponent, decoded, ?_, ?_⟩
  · rw [scaled]
    refine roundsTo_of_quarters factor_pos ?_ contained
    rw [← Nat.add_mul]
    refine Nat.mul_le_mul_right _ ?_
    split <;> omega
  · rintro rfl above
    rw [if_pos (by norm_num), if_pos ⟨rfl, above⟩] at contained
    have low : ((4 * 2 ^ 52 - 1 : Nat) * factor : ℚ) ≤ 4 * point := by exact_mod_cast contained.1
    rw [scaled, le_div_iff₀ unit]
    norm_num at low ⊢
    linarith

/-! ## Shortest decimals -/

theorem roundingInterval_low_pos (positive : significand ≠ 0) (exponent : Int) :
    0 < (roundingInterval significand exponent).1.low := by
  obtain ⟨factor, factor_pos, -, interval⟩ := exists_scale significand exponent
  rw [interval]
  refine Nat.mul_pos ?_ factor_pos
  split <;> omega

theorem contains_value (positive : significand ≠ 0) (exponent : Int) :
    (roundingInterval significand exponent).1.contains
      ((roundingInterval significand exponent).1.value / 4 * 4) = true := by
  obtain ⟨factor, factor_pos, -, interval⟩ := exists_scale significand exponent
  have low : (4 * significand - if significand = 2 ^ 52 ∧ -1074 < exponent then 1 else 2) * factor <
      4 * significand * factor := by
    apply Nat.mul_lt_mul_of_pos_right _ factor_pos
    split <;> omega
  have high : 4 * significand * factor < (4 * significand + 2) * factor :=
    Nat.mul_lt_mul_of_pos_right (by omega) factor_pos
  have whole : 4 * significand * factor / 4 * 4 = 4 * significand * factor := by
    rw [Nat.mul_assoc, Nat.mul_div_cancel_left _ (by decide), Nat.mul_comm]
  rw [interval, RoundingInterval.contains_iff, whole]
  dsimp only
  split
  · exact ⟨low.le, high.le⟩
  · exact ⟨low, high⟩

/-- The shortest decimal is positive and rounds to the double. -/
theorem shortest?_eq_some {tie : Tie} {decimal : Decimal}
    (shortest : x.shortest? tie = some decimal) :
    0 < decimal.digits ∧ x.IsNear decimal.toRat := by
  rw [shortest?] at shortest
  split at shortest
  · contradiction
  · rename_i significand exponent decoded
    split at shortest
    · contradiction
    · rename_i positive
      have contained := RoundingInterval.contains_search tie
        (contains_value positive exponent) (Nat.toDigits 10
          ((roundingInterval significand exponent).1.value / 4)).length
      dsimp only at shortest
      generalize (roundingInterval significand exponent).1.search tie 4 (Nat.toDigits 10
          ((roundingInterval significand exponent).1.value / 4)).length = found at *
      obtain ⟨digits, place⟩ := found
      obtain rfl := Option.some.inj shortest
      dsimp only at contained
      rw [Nat.mul_left_comm] at contained
      refine ⟨?_, ?_⟩
      · have low := (roundingInterval_low_pos positive exponent).trans_le
          (RoundingInterval.low_le_of_contains contained)
        simpa using low
      · have near := isNear_of_contains decoded positive contained
        rw [Decimal.toRat, zpow_add₀ (by norm_num), mul_left_comm, mul_comm]
        push_cast at near
        exact near

theorem exists_decode? (finite : x.isFinite = true) :
    ∃ significand exponent, x.decode? = some (significand, exponent) := by
  rw [isFinite, decide_eq_true_eq] at finite
  rw [decode?, BinaryFormat.decode?, if_neg (Nat.not_le.mpr finite)]
  dsimp only
  split
  · exact ⟨_, _, rfl⟩
  · exact ⟨_, _, rfl⟩

/-- A finite double without a shortest decimal is zero. -/
theorem isNear_zero (finite : x.isFinite = true) {tie : Tie} (none : x.shortest? tie = none) :
    x.IsNear 0 := by
  obtain ⟨significand, exponent, decoded⟩ := exists_decode? finite
  rw [shortest?, decoded] at none
  by_cases zero : significand = 0
  · refine ⟨significand, exponent, decoded, ?_, ?_⟩
    · rw [zero, RoundsTo, if_pos rfl]
      norm_num
    · exact fun power => absurd (zero.symm.trans power) (by decide)
  · simp [zero] at none

theorem ofMagnitude_magnitude (x : Binary64) : ofMagnitude x.isNegative x.magnitude = x := by
  have bounded : x.magnitude < BinaryFormat.double.signBit := x.magnitude_lt
  have sized : x.word.toNat < 2 ^ 64 := x.word.toNat_lt
  have same : (ofMagnitude x.isNegative x.magnitude).word = x.word := by
    rw [← UInt64.toNat_inj, toNat_ofMagnitude _ bounded, magnitude, isNegative,
      show BinaryFormat.double.signBit = 2 ^ 63 from rfl]
    simp only [decide_eq_true_eq]
    split <;> omega
  exact congrArg Binary64.mk same

/-- A numeral of a number near a double, with the sign of this double, has it as its nearest one. -/
theorem signed_numeral {numeral : Numeral} (wellFormed : numeral.IsWellFormed)
    (unsigned : numeral.negative = false) {text : String}
    (written : text.toList = numeral.characters) (near : x.IsNear numeral.toDecimal.toRat) :
    (numeral.withSign x.isNegative).IsWellFormed ∧
      (if x.isNegative then "-" ++ text else text).toList =
        (numeral.withSign x.isNegative).characters ∧
      (numeral.withSign x.isNegative).nearest? = some x := by
  obtain ⟨negative, whole, fraction, exponent⟩ := numeral
  obtain rfl : negative = false := unsigned
  refine ⟨⟨wellFormed.whole, wellFormed.leading, wellFormed.fraction, wellFormed.exponent⟩, ?_, ?_⟩
  · cases x.isNegative with
    | true =>
      rw [if_pos rfl, String.toList_append, written]
      rfl
    | false => exact written
  · rw [Numeral.nearest?, Numeral.toDecimal_withSign, Decimal.nearestWord?_eq near,
      Option.map_some, Numeral.withSign, ofMagnitude_magnitude]

/-- The text of a finite double is a numeral that spells no integer, and the double is the nearest
to this numeral. -/
theorem exists_numeral (finite : x.isFinite = true) : ∃ numeral : Numeral,
    numeral.IsWellFormed ∧ (x.finiteText .json).toList = numeral.characters ∧
      numeral.toInt? = none ∧ numeral.nearest? = some x := by
  have signed {value : ℚ} {text : String} (near : x.IsNear value)
      (fractional : Numeral.IsFractional value text) : ∃ numeral : Numeral,
        numeral.IsWellFormed ∧
        (if x.isNegative then "-" ++ text else text).toList = numeral.characters ∧
        numeral.toInt? = none ∧ numeral.nearest? = some x := by
    obtain ⟨numeral, wellFormed, unsigned, written, other, rfl⟩ := fractional
    obtain ⟨wellFormed, written, nearest⟩ := signed_numeral wellFormed unsigned written near
    exact ⟨_, wellFormed, written, Numeral.toInt?_withSign _ other unsigned, nearest⟩
  rw [finiteText]
  cases shortest : x.shortest? Layout.json.tie with
  | none => exact signed (isNear_zero finite shortest) Numeral.isFractional_zero
  | some decimal =>
    obtain ⟨positive, near⟩ := shortest?_eq_some shortest
    exact signed near (Numeral.isFractional_decimalText positive)

end Binary64

end SqlQuery
