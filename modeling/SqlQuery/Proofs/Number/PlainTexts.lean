import SqlQuery.Proofs.Number.Shortest

/-! # Plain texts of doubles

Every digit of a double is written in its plain text, and an integral one gets no point. So the text
belongs to one double only, but it is also the text of an integer if the shortest decimal of the
double is one. This is the case for every double without fraction except the negative zero.
-/

namespace SqlQuery

/-- A power of ten appends zeros. -/
theorem Numeral.toDigits_mul_pow {n : Nat} (positive : 0 < n) (zeros : Nat) :
    Nat.toDigits 10 (n * 10 ^ zeros) = Nat.toDigits 10 n ++ List.replicate zeros '0' := by
  induction zeros with
  | zero => simp
  | succ zeros ih =>
    have scaled : 0 < n * 10 ^ zeros := Nat.mul_pos positive (Nat.pow_pos (by decide))
    rw [Nat.pow_succ, ← Nat.mul_assoc, Nat.toDigits_of_base_le (by decide) (by omega),
      Nat.mul_div_cancel _ (by decide), Nat.mul_mod_left, ih, List.replicate_succ',
      List.append_assoc]
    rfl

namespace Layout

theorem decimalText_plain (decimal : Decimal) : plain.decimalText decimal =
    positionalText "" (Nat.toDigits 10 decimal.digits) decimal.exponent := rfl

theorem decimalText_plain_of_nonneg {decimal : Decimal} (positive : 0 < decimal.digits)
    (up : 0 ≤ decimal.exponent) : plain.decimalText decimal =
      toString ((decimal.digits * 10 ^ decimal.exponent.toNat : Nat) : Int) := by
  rw [decimalText_plain, positionalText, if_pos up, String.append_empty,
    ← Numeral.toDigits_mul_pow positive]
  rfl

/-- Where a point stands, the mark plays no part. -/
theorem isFractional_decimalText_plain {decimal : Decimal} (positive : 0 < decimal.digits)
    (down : ¬0 ≤ decimal.exponent) :
    Numeral.IsFractional decimal.toRat (plain.decimalText decimal) := by
  have text := Numeral.isFractional_positionalText (Numeral.isDigits_toDigits decimal.digits)
    (Numeral.head?_toDigits_ne positive) decimal.exponent
  rw [Numeral.digitsValue_toDigits, positionalText, if_neg down] at text
  rwa [decimalText_plain, positionalText, if_neg down]

theorem point_mem_decimalText_plain {decimal : Decimal} (down : ¬0 ≤ decimal.exponent) :
    '.' ∈ (plain.decimalText decimal).toList := by
  rw [decimalText_plain, positionalText, if_neg down, String.toList_ofList]
  exact List.mem_append_right _ (List.mem_cons_self ..)

end Layout

namespace RoundingInterval

variable {interval : RoundingInterval} {tie : Tie}

/-- The value is a grid point where the step divides it. -/
theorem isSome_gridPoint? {step : Nat} (divides : step ∣ interval.value)
    (contained : interval.contains interval.value = true) :
    (interval.gridPoint? tie step).isSome = true := by
  have below : interval.contains (interval.value / step * step) = true := by
    rwa [Nat.div_mul_cancel divides]
  unfold gridPoint?
  dsimp only
  rw [below]
  cases interval.contains ((interval.value / step + 1) * step) with
  | false => rfl
  | true =>
    dsimp only
    split
    · rfl
    · split
      · rfl
      · cases tie <;> rfl

/-- The search stops at a grid with a point, or at a coarser one before. -/
theorem le_place {unit level places : Nat} (within : level ≤ places)
    (point : (interval.gridPoint? tie (unit * 10 ^ level)).isSome = true) :
    level ≤ (interval.search tie unit places).2 := by
  induction places with
  | zero => exact within
  | succ places ih =>
    rw [search]
    cases found : interval.gridPoint? tie (unit * Nat.pow 10 (places + 1)) with
    | some digits => exact within
    | none =>
      have finer : level ≠ places + 1 := by
        rintro rfl
        rw [← Nat.pow_eq, found] at point
        contradiction
      exact ih (by omega)

end RoundingInterval

namespace Numeral

/-- With a sign, the numeral of a size is the numeral of an integer, unless it is zero with a minus. -/
theorem withSign_ofInt_eq_iff {size : Nat} {negative : Bool} {n : Int} :
    (ofInt size).withSign negative = ofInt n ↔
      (if negative then if size = 0 then none else some (-(size : Int)) else some (size : Int)) =
        some n := by
  have spelled : ((ofInt size).withSign negative).toInt? =
      if negative then if size = 0 then none else some (-(size : Int)) else some (size : Int) := by
    simp [withSign, ofInt, toInt?, digitsValue_toDigits]
  rw [← spelled]
  constructor
  · intro same
    rw [same, toInt?_ofInt]
  · rw [spelled]
    cases negative with
    | false =>
      rintro ⟨⟩
      simp [withSign, ofInt]
    | true =>
      rw [if_pos rfl]
      split
      · intro none
        contradiction
      · rename_i given
        rintro ⟨⟩
        simp [withSign, ofInt, Nat.pos_of_ne_zero given]

end Numeral

namespace Binary64

/-- The natural number that the shortest decimal of the magnitude of a finite double is, if it is
one. -/
def shortestSize? (x : Binary64) : Option Nat :=
  match x.shortest? Layout.plain.tie with
  | none => some 0
  | some decimal =>
    if 0 ≤ decimal.exponent then some (decimal.digits * 10 ^ decimal.exponent.toNat) else none

/-- The integer that the shortest decimal of a finite double is, if it is one. -/
def shortestInteger? (x : Binary64) : Option Int :=
  x.shortestSize?.bind fun size =>
    if x.isNegative then if size = 0 then none else some (-(size : Int)) else some (size : Int)

variable {x y : Binary64}

/-- The magnitude of a finite double without its sign, as its plain text writes it. -/
def plainMagnitude (x : Binary64) : String :=
  match x.shortest? Layout.plain.tie with
  | none => "0"
  | some decimal => Layout.plain.decimalText decimal

theorem finiteText_plain (x : Binary64) : x.finiteText .plain =
    if x.isNegative then "-" ++ x.plainMagnitude else x.plainMagnitude := by
  rw [finiteText, plainMagnitude]
  cases x.shortest? Layout.plain.tie <;> rfl

theorem shortestSize?_eq_some (finite : x.isFinite = true) {size : Nat}
    (same : x.shortestSize? = some size) :
    x.IsNear size ∧ x.plainMagnitude = toString (size : Int) := by
  rw [shortestSize?] at same
  rw [plainMagnitude]
  cases shortest : x.shortest? Layout.plain.tie with
  | none =>
    rw [shortest] at same
    obtain rfl : 0 = size := Option.some.inj same
    exact ⟨by simpa using isNear_zero finite shortest, rfl⟩
  | some decimal =>
    obtain ⟨positive, near⟩ := shortest?_eq_some shortest
    rw [shortest] at same
    dsimp only at same
    split at same
    · rename_i up
      obtain rfl := Option.some.inj same
      refine ⟨?_, Layout.decimalText_plain_of_nonneg positive up⟩
      obtain ⟨power, up⟩ := Int.eq_ofNat_of_zero_le up
      rw [Decimal.toRat, up, zpow_natCast] at near
      rw [up, Int.toNat_natCast]
      exact_mod_cast near
    · contradiction

theorem shortestSize?_eq_none (none : x.shortestSize? = none) :
    ∃ value, x.IsNear value ∧ Numeral.IsFractional value x.plainMagnitude ∧
      '.' ∈ x.plainMagnitude.toList := by
  rw [shortestSize?] at none
  rw [plainMagnitude]
  cases shortest : x.shortest? Layout.plain.tie with
  | none => simp [shortest] at none
  | some decimal =>
    obtain ⟨positive, near⟩ := shortest?_eq_some shortest
    rw [shortest] at none
    dsimp only at none
    split at none
    · contradiction
    · rename_i down
      exact ⟨_, near, Layout.isFractional_decimalText_plain positive down,
        Layout.point_mem_decimalText_plain down⟩

/-- The plain text of a finite double is a numeral whose nearest double is this one, and it is the
numeral of an integer if the shortest decimal is one. -/
theorem exists_plain_numeral (finite : x.isFinite = true) : ∃ numeral : Numeral,
    numeral.IsWellFormed ∧ (x.finiteText .plain).toList = numeral.characters ∧
      numeral.nearest? = some x ∧
      ∀ n, numeral = Numeral.ofInt n ↔ x.shortestInteger? = some n := by
  rw [finiteText_plain, shortestInteger?]
  cases shortest : x.shortestSize? with
  | some size =>
    obtain ⟨near, written⟩ := shortestSize?_eq_some finite shortest
    have value : (Numeral.ofInt size).toDecimal.toRat = size := by
      simp [Numeral.ofInt, Numeral.toDecimal, Decimal.toRat, Numeral.power,
        Numeral.digitsValue_toDigits]
    rw [← value] at near
    obtain ⟨wellFormed, characters, nearest⟩ := signed_numeral (Numeral.isWellFormed_ofInt size)
      (by simp [Numeral.ofInt]) (written ▸ (Numeral.characters_ofInt size).symm) near
    exact ⟨_, wellFormed, characters, nearest, fun n => Numeral.withSign_ofInt_eq_iff⟩
  | none =>
    obtain ⟨_, near, ⟨numeral, unsignedForm, unsigned, written, other, rfl⟩, -⟩ :=
      shortestSize?_eq_none shortest
    obtain ⟨wellFormed, characters, nearest⟩ := signed_numeral unsignedForm unsigned written near
    refine ⟨_, wellFormed, characters, nearest, fun n => iff_of_false (fun same => ?_) (by simp)⟩
    have none := Numeral.toInt?_withSign x.isNegative other unsigned
    rw [same, Numeral.toInt?_ofInt] at none
    contradiction

/-- The plain text of a finite double is the text of an integer if its shortest decimal is it. -/
theorem finiteText_plain_eq_toString_iff (finite : x.isFinite = true) {n : Int} :
    x.finiteText .plain = toString n ↔ x.shortestInteger? = some n := by
  obtain ⟨numeral, wellFormed, written, -, integral⟩ := exists_plain_numeral finite
  rw [← integral, ← String.toList_inj, written, ← Numeral.characters_ofInt]
  exact ⟨Numeral.characters_injective wellFormed (Numeral.isWellFormed_ofInt n),
    congrArg Numeral.characters⟩

/-- The integer has the sign of the double and is near it. -/
theorem of_shortestInteger? (finite : x.isFinite = true) {n : Int}
    (same : x.shortestInteger? = some n) :
    x.IsNear n.natAbs ∧ x.isNegative = decide (n < 0) := by
  rw [shortestInteger?, Option.bind_eq_some_iff] at same
  obtain ⟨size, shortest, signed⟩ := same
  obtain ⟨near, -⟩ := shortestSize?_eq_some finite shortest
  split at signed
  · rename_i negative
    split at signed
    · contradiction
    · obtain rfl := Option.some.inj signed
      have below : -(size : Int) < 0 := by omega
      exact ⟨by simpa using near, negative.trans (decide_eq_true below).symm⟩
  · rename_i positive
    obtain rfl := Option.some.inj signed
    have above : ¬(size : Int) < 0 := by omega
    rw [Bool.not_eq_true] at positive
    exact ⟨by simpa using near, positive.trans (decide_eq_false above).symm⟩

/-- The double is the nearest to the integer. -/
theorem ofInt_eq_of_shortestInteger? (finite : x.isFinite = true) {n : Int}
    (same : x.shortestInteger? = some n) : ofInt n = x := by
  obtain ⟨near, sign⟩ := of_shortestInteger? finite same
  rw [ofInt, near.nearestWord_eq Nat.one_pos (by rw [Nat.cast_one, div_one]), ← sign,
    ofMagnitude_magnitude]

/-! ## Doubles without fraction -/

/-- A double is an integer if a natural number is near its magnitude. -/
theorem IsNear.exists_toInt? {size : Nat} (near : x.IsNear size) : ∃ m, x.toInt? = some m := by
  obtain ⟨significand, exponent, decoded, rounds, -⟩ := near
  by_cases up : 0 ≤ exponent
  · refine ⟨_, toInt?_eq_some_iff.mpr ⟨significand, exponent, decoded,
      significand * 2 ^ exponent.toNat, ?_, rfl⟩⟩
    rw [(by omega : (-exponent).toNat = 0), Nat.pow_zero, Nat.mul_one]
  · -- The number is whole in units of the last place, so it is not rounded.
    obtain ⟨power, same⟩ := Int.eq_ofNat_of_zero_le (by omega : 0 ≤ -exponent)
    obtain rfl : exponent = -(power : Int) := by omega
    obtain ⟨low, high⟩ := rounds.bounds
    rw [zpow_neg, div_inv_eq_mul, zpow_natCast] at low high
    have units : size * 2 ^ power = significand := by
      have above : (significand : ℚ) < (size * 2 ^ power : Nat) + 1 := by
        push_cast
        linarith
      have below : ((size * 2 ^ power : Nat) : ℚ) < significand + 1 := by
        push_cast
        linarith
      norm_cast at above below
      omega
    refine ⟨_, toInt?_eq_some_iff.mpr ⟨significand, _, decoded, size, ?_, rfl⟩⟩
    rw [neg_neg, Int.toNat_natCast, units, (by omega : (-(power : Int)).toNat = 0), Nat.pow_zero,
      Nat.mul_one]

/-- At the scale of its interval an integer ends in as many zeros as the scale has places. -/
theorem roundingInterval_of_integer {significand size : Nat} {exponent : Int}
    (whole : (significand : ℚ) * 2 ^ exponent = size) :
    (roundingInterval significand exponent).2 = -((-exponent).toNat : Int) ∧
      (roundingInterval significand exponent).1.value = 4 * (size * 10 ^ (-exponent).toNat) := by
  have level : (roundingInterval significand exponent).2 = -((-exponent).toNat : Int) := by
    rw [roundingInterval]
    dsimp only
    omega
  refine ⟨level, ?_⟩
  obtain ⟨factor, -, scale, interval⟩ := exists_scale significand exponent
  rw [level, zpow_neg, zpow_natCast, ← div_eq_mul_inv, div_eq_iff (by positivity)] at scale
  rw [interval, ← Nat.cast_inj (R := ℚ)]
  push_cast
  rw [scale, ← whole]
  ring

/-- The grid of all integers has the double as a point, so the shortest decimal lies on it or on a
coarser one. -/
theorem exists_shortestSize? {m : Int} (exact : x.toInt? = some m) :
    ∃ size, x.shortestSize? = some size := by
  obtain ⟨significand, exponent, decoded, whole⟩ := exists_decode?_of_toInt? exact
  obtain ⟨scale, value⟩ := roundingInterval_of_integer whole
  rw [shortestSize?, shortest?, decoded]
  dsimp only
  by_cases given : significand = 0
  · rw [if_pos given]
    exact ⟨0, rfl⟩
  · rw [if_neg given]
    have positive : 0 < m.natAbs := by
      have number : (0 : ℚ) < significand * 2 ^ exponent :=
        mul_pos (by exact_mod_cast Nat.pos_of_ne_zero given) (two_zpow_pos _)
      rw [whole] at number
      exact_mod_cast number
    have contained := contains_value given exponent
    generalize (roundingInterval significand exponent).1 = interval at *
    have fits : (-exponent).toNat ≤ (Nat.toDigits 10 (interval.value / 4)).length := by
      rw [value, Nat.mul_div_cancel_left _ (by decide), length_toDigits]
      exact Nat.le_succ_of_le (Nat.le_log_of_pow_le (by decide) (Nat.le_mul_of_pos_left _ positive))
    have place : (-exponent).toNat ≤ (interval.search Layout.plain.tie 4
        (Nat.toDigits 10 (interval.value / 4)).length).2 := by
      refine RoundingInterval.le_place fits (RoundingInterval.isSome_gridPoint? ?_ ?_)
      · exact ⟨m.natAbs, by rw [value, Nat.mul_assoc, Nat.mul_comm m.natAbs]⟩
      · rwa [Nat.div_mul_cancel ⟨_, value⟩] at contained
    refine ⟨_, if_pos ?_⟩
    dsimp only
    omega

/-- A plain text has a point if the double has a fraction. -/
theorem point_mem_finiteText_iff (finite : x.isFinite = true) :
    '.' ∈ (x.finiteText .plain).toList ↔ x.isWhole = false := by
  have sign : '.' ∈ (x.finiteText .plain).toList ↔ '.' ∈ x.plainMagnitude.toList := by
    rw [finiteText_plain]
    cases x.isNegative <;> simp
  rw [sign, ← Bool.not_eq_true, isWhole_iff]
  simp only [toRat?_eq_intCast_iff]
  cases shortest : x.shortestSize? with
  | some size =>
    obtain ⟨near, text⟩ := shortestSize?_eq_some finite shortest
    refine iff_of_false (fun point => ?_) (not_not.mpr near.exists_toInt?)
    rw [text, ← Numeral.characters_ofInt] at point
    have digit : '.' ∈ Nat.toDigits 10 size := by
      simpa [Numeral.ofInt, Numeral.characters, Numeral.fractionCharacters,
        Numeral.exponentCharacters] using point
    exact absurd ((Numeral.isDigits_toDigits size).2 _ digit) (by decide)
  | none =>
    refine iff_of_true ?_ ?_
    · obtain ⟨-, -, -, point⟩ := shortestSize?_eq_none shortest
      exact point
    · rintro ⟨m, exact⟩
      obtain ⟨size, some⟩ := exists_shortestSize? exact
      rw [shortest] at some
      contradiction

/-! ## The range of 64 bits -/

/-- Below the end of the range the units are small enough for half of one not to reach it. -/
theorem add_half_lt {significand : Nat} {exponent : Int} (small : significand < 2 ^ 53)
    (normal : -1074 < exponent → 2 ^ 52 ≤ significand)
    (below : (significand : ℚ) * 2 ^ exponent < 2 ^ 63) :
    (significand + 1 / 2 : ℚ) * 2 ^ exponent < 2 ^ 63 := by
  have most : (significand : ℚ) + 1 ≤ 2 ^ 53 := by exact_mod_cast small
  have early : exponent ≤ 10 := by
    by_contra late
    have units : (2 ^ 52 : ℚ) ≤ significand := by exact_mod_cast normal (by omega)
    refine absurd below (not_lt.mpr ?_)
    calc (2 : ℚ) ^ 63 = 2 ^ 52 * (2 : ℚ) ^ (11 : Int) := by norm_num
      _ ≤ significand * (2 : ℚ) ^ exponent := by
        gcongr
        · norm_num
        · omega
  calc (significand + 1 / 2 : ℚ) * 2 ^ exponent < 2 ^ 53 * 2 ^ exponent :=
        mul_lt_mul_of_pos_right (by linarith) (two_zpow_pos _)
    _ ≤ 2 ^ 53 * (2 : ℚ) ^ (10 : Int) := by
        gcongr
        norm_num
    _ = 2 ^ 63 := by norm_num

/-- Beyond the end of the range there is a unit between, or the units are greater still. -/
theorem lt_sub_half {significand : Nat} {exponent : Int} (small : significand < 2 ^ 53)
    (normal : -1074 < exponent → 2 ^ 52 ≤ significand)
    (above : 2 ^ 63 < (significand : ℚ) * 2 ^ exponent) :
    2 ^ 63 < (significand - 1 / 2 : ℚ) * 2 ^ exponent := by
  have most : (significand : ℚ) ≤ 2 ^ 53 := by exact_mod_cast small.le
  have late : 11 ≤ exponent := by
    by_contra early
    refine absurd above (not_lt.mpr ?_)
    calc (significand : ℚ) * 2 ^ exponent ≤ 2 ^ 53 * (2 : ℚ) ^ (10 : Int) := by
          gcongr
          · norm_num
          · omega
      _ = 2 ^ 63 := by norm_num
  have units : 2 ^ 52 ≤ significand := normal (by omega)
  rcases late.eq_or_lt with rfl | later
  · rw [zpow_ofNat] at above ⊢
    have next : 2 ^ 52 < significand := by
      by_contra least
      have least : (significand : ℚ) ≤ 2 ^ 52 := by exact_mod_cast not_lt.mp least
      linarith
    have next : (2 ^ 52 : ℚ) + 1 ≤ significand := by exact_mod_cast next
    linarith
  · have units : (2 ^ 52 : ℚ) ≤ significand := by exact_mod_cast units
    calc (2 : ℚ) ^ 63 < (2 ^ 52 - 1 / 2) * (2 : ℚ) ^ (12 : Int) := by norm_num
      _ ≤ (significand - 1 / 2) * (2 : ℚ) ^ exponent := by
        gcongr
        · linarith
        · norm_num
        · exact later

/-- No number near an integer is on another side of the end of the range. -/
theorem IsNear.side {value : ℚ} (near : x.IsNear value) {m : Int} (exact : x.toInt? = some m) :
    (m.natAbs < 2 ^ 63 → value < 2 ^ 63) ∧ (2 ^ 63 < m.natAbs → 2 ^ 63 < value) := by
  obtain ⟨significand, exponent, decoded, rounds, -⟩ := near
  obtain ⟨significand', exponent', decoded', whole⟩ := exists_decode?_of_toInt? exact
  obtain ⟨rfl, rfl⟩ := Prod.mk.inj (Option.some.inj (decoded.symm.trans decoded'))
  obtain ⟨small, place⟩ := magnitude_of_decode? decoded
  have normal : -1074 < exponent → 2 ^ 52 ≤ significand := by
    rcases place with ⟨-, -, rfl⟩ | ⟨steps, -, normal, -⟩
    · exact fun later => absurd later (lt_irrefl _)
    · exact fun _ => normal
  obtain ⟨low, high⟩ := rounds.bounds
  rw [le_div_iff₀ (two_zpow_pos _)] at low
  rw [div_le_iff₀ (two_zpow_pos _)] at high
  rw [← Nat.cast_lt (α := ℚ), ← Nat.cast_lt (α := ℚ), ← whole]
  push_cast
  exact ⟨fun below => high.trans_lt (add_half_lt small normal below),
    fun above => (lt_sub_half small normal above).trans_le low⟩

/-- A finite double without shortest integer has a fraction or is the negative zero. -/
theorem exists_shortestInteger?_iff (finite : x.isFinite = true) :
    (∃ n, x.shortestInteger? = some n) ↔
      x ≠ ofMagnitude true 0 ∧ ∃ m : Int, x.toRat? = some (m : ℚ) := by
  simp only [toRat?_eq_intCast_iff]
  constructor
  · rintro ⟨n, shortest⟩
    refine ⟨?_, (of_shortestInteger? finite shortest).1.exists_toInt?⟩
    rintro rfl
    have none : (ofMagnitude true 0).shortestInteger? = none := by decide +kernel
    rw [none] at shortest
    contradiction
  · rintro ⟨nonzero, m, exact⟩
    obtain ⟨size, shortest⟩ := exists_shortestSize? exact
    rw [shortestInteger?, shortest, Option.bind_some]
    split
    · rename_i negative
      split
      · rename_i zero
        have near := (shortestSize?_eq_some finite shortest).1
        rw [zero, Nat.cast_zero] at near
        have magnitude := near.magnitude_eq_zero (two_zpow_pos _)
        have same := x.ofMagnitude_magnitude
        rw [negative, magnitude] at same
        exact absurd same.symm nonzero
      · exact ⟨_, rfl⟩
    · exact ⟨_, rfl⟩

/-- The power of two itself is written as a number beyond it. -/
theorem shortestInteger?_of_end {m : Int} (exact : x.toInt? = some m) (size : m.natAbs = 2 ^ 63) :
    x.shortestInteger? =
      some (if x.isNegative then -9223372036854776000 else 9223372036854776000) := by
  have word : BinaryFormat.double.nearestWord m.natAbs 1 = x.magnitude :=
    (isNear_natAbs exact).nearestWord_eq Nat.one_pos (by rw [Nat.cast_one, div_one])
  have magnitude : BinaryFormat.double.nearestWord (2 ^ 63) 1 = 0x43E0000000000000 := by
    decide +kernel
  rw [size, magnitude] at word
  have same := x.ofMagnitude_magnitude
  rw [← word] at same
  rw [← same]
  cases x.isNegative <;> decide +kernel

/-- The integer is one of 64 bits if the double is one of them. -/
theorem exists_int64_iff (finite : x.isFinite = true) :
    (∃ n : Int64, x.shortestInteger? = some n.toInt) ↔
      x ≠ ofMagnitude true 0 ∧ ∃ m : Int, m.natAbs < 2 ^ 63 ∧ x.toRat? = some (m : ℚ) := by
  constructor
  · rintro ⟨n, shortest⟩
    obtain ⟨nonzero, m, exact⟩ := (exists_shortestInteger?_iff finite).mp ⟨_, shortest⟩
    refine ⟨nonzero, m, ?_, exact⟩
    have exact := toRat?_eq_intCast_iff.mp exact
    obtain ⟨near, -⟩ := of_shortestInteger? finite shortest
    have least := n.le_toInt
    have greatest := n.toInt_lt
    by_contra far
    rcases (by omega : m.natAbs = 2 ^ 63 ∨ 2 ^ 63 < m.natAbs) with size | beyond
    · rw [shortestInteger?_of_end exact size, Option.some_inj] at shortest
      split at shortest <;> omega
    · have above := (near.side exact).2 beyond
      norm_cast at above
      omega
  · rintro ⟨nonzero, m, small, exact⟩
    obtain ⟨n, shortest⟩ := (exists_shortestInteger?_iff finite).mpr ⟨nonzero, m, exact⟩
    obtain ⟨near, -⟩ := of_shortestInteger? finite shortest
    have below := (near.side (toRat?_eq_intCast_iff.mp exact)).1 (by omega)
    norm_cast at below
    refine ⟨Int64.ofInt n, ?_⟩
    rw [shortest, Int64.toInt_ofInt_of_le (by omega) (by omega)]

end Binary64

end SqlQuery
