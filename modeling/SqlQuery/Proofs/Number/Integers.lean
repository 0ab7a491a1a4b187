import Mathlib.Tactic.IntervalCases
import SqlQuery.Number.Binary64

/-! # Doubles that are integers

A double is an integer if its significand, shifted by its exponent, leaves no fraction. Of all
doubles that are integers, only zero has a word that is the integer as well.
-/

namespace SqlQuery

namespace Binary64

/-! ## The integer that a double is -/

/-- A significand shifted by its exponent is a size, unless it leaves a fraction. -/
theorem size_eq_some_iff (significand : Nat) (exponent : Int) (size : Nat) :
    (if 0 ≤ exponent then some (significand * Nat.pow 2 exponent.toNat)
      else if significand % Nat.pow 2 (-exponent).toNat = 0 then
        some (significand / Nat.pow 2 (-exponent).toNat)
      else none) = some size ↔
      significand * 2 ^ exponent.toNat = size * 2 ^ (-exponent).toNat := by
  simp only [Nat.pow_eq]
  split
  · rw [(by omega : (-exponent).toNat = 0), Nat.pow_zero, Nat.mul_one, Option.some_inj]
  · rw [(by omega : exponent.toNat = 0), Nat.pow_zero, Nat.mul_one]
    have positive := Nat.two_pow_pos (-exponent).toNat
    split
    · rename_i divides
      rw [Option.some_inj, Nat.div_eq_iff_eq_mul_left positive (Nat.dvd_of_mod_eq_zero divides)]
    · rename_i fraction
      simp only [reduceCtorEq, false_iff]
      rintro rfl
      exact fraction (Nat.mul_mod_left ..)

/-- A double is an integer if its significand, shifted by its exponent, leaves no fraction. -/
theorem toInt?_eq_some_iff {x : Binary64} {n : Int} :
    x.toInt? = some n ↔ ∃ significand exponent, x.decode? = some (significand, exponent) ∧
      ∃ size : Nat, significand * 2 ^ exponent.toNat = size * 2 ^ (-exponent).toNat ∧
        n = if x.isNegative then -(size : Int) else size := by
  rw [toInt?]
  cases x.decode? with
  | none => simp
  | some parts =>
    obtain ⟨significand, exponent⟩ := parts
    dsimp only
    simp only [Option.map_eq_some_iff, bind, Option.bind_eq_some_iff, pure, size_eq_some_iff,
      Option.some_inj, Prod.mk.injEq]
    constructor
    · rintro ⟨_, ⟨size, shifted, rfl⟩, rfl⟩
      exact ⟨_, _, ⟨rfl, rfl⟩, size, shifted, rfl⟩
    · rintro ⟨_, _, ⟨rfl, rfl⟩, size, shifted, rfl⟩
      exact ⟨_, ⟨size, shifted, rfl⟩, rfl⟩

theorem toNat_ofMagnitude (negative : Bool) {magnitude : Nat}
    (bounded : magnitude < BinaryFormat.double.signBit) :
    (ofMagnitude negative magnitude).word.toNat =
      magnitude + if negative then BinaryFormat.double.signBit else 0 := by
  have sign : BinaryFormat.double.signBit = 2 ^ 63 := rfl
  rw [sign] at bounded
  rw [ofMagnitude, sign]
  dsimp only
  rw [UInt64.toNat_ofNat', Nat.mod_eq_of_lt]
  split <;> omega

theorem isNegative_ofMagnitude (negative : Bool) {magnitude : Nat}
    (bounded : magnitude < BinaryFormat.double.signBit) :
    (ofMagnitude negative magnitude).isNegative = negative := by
  rw [isNegative, toNat_ofMagnitude negative bounded]
  cases negative with
  | true => simp
  | false => simpa using bounded

theorem magnitude_ofMagnitude (negative : Bool) {magnitude : Nat}
    (bounded : magnitude < BinaryFormat.double.signBit) :
    (ofMagnitude negative magnitude).magnitude = magnitude := by
  rw [Binary64.magnitude, toNat_ofMagnitude negative bounded]
  cases negative <;> simp [Nat.mod_eq_of_lt bounded]

theorem magnitude_lt (x : Binary64) : x.magnitude < 2 ^ 63 :=
  Nat.mod_lt _ (Nat.two_pow_pos 63)

/-- The magnitude of a double by its significand and its exponent. -/
theorem magnitude_of_decode? {x : Binary64} {significand : Nat} {exponent : Int}
    (decoded : x.decode? = some (significand, exponent)) : significand < 2 ^ 53 ∧
      ((x.magnitude = significand ∧ significand < 2 ^ 52 ∧ exponent = -1074) ∨
        ∃ steps : Nat, exponent = steps - 1074 ∧ 2 ^ 52 ≤ significand ∧
          x.magnitude = steps * 2 ^ 52 + significand) := by
  rw [decode?, BinaryFormat.decode?] at decoded
  have width : Nat.pow 2 BinaryFormat.double.fractionBits = 2 ^ 52 := rfl
  have least : BinaryFormat.double.leastExponent = -1074 := rfl
  simp only [width, least] at decoded
  have part := Nat.mod_lt x.magnitude (Nat.two_pow_pos 52)
  have whole := Nat.div_add_mod x.magnitude (2 ^ 52)
  split at decoded
  · contradiction
  · split at decoded
    · rename_i subnormal
      obtain ⟨rfl, rfl⟩ := Prod.mk.inj (Option.some.inj decoded)
      exact ⟨by omega, .inl ⟨by omega, part, rfl⟩⟩
    · rename_i normal
      obtain ⟨rfl, rfl⟩ := Prod.mk.inj (Option.some.inj decoded)
      refine ⟨by omega, .inr ⟨x.magnitude / 2 ^ 52 - 1, by omega, by omega, ?_⟩⟩
      omega

/-- The integer that the bits of a double spell in two's complement. -/
def wordInt (x : Binary64) : Int :=
  if x.isNegative then (x.magnitude : Int) - 2 ^ 63 else x.magnitude

/-- Of the doubles that are integers, only zero has the bits of its integer. -/
theorem magnitude_eq_zero_of_toInt?_eq_wordInt {x : Binary64} (same : x.toInt? = some x.wordInt) :
    x.magnitude = 0 ∧ x.isNegative = false := by
  obtain ⟨significand, exponent, decoded, size, shifted, spelled⟩ := toInt?_eq_some_iff.mp same
  have sized : (x.isNegative = false ∧ x.magnitude = size) ∨ x.magnitude + size = 2 ^ 63 := by
    rw [wordInt] at spelled
    cases sign : x.isNegative with
    | true =>
      rw [sign, if_pos rfl, if_pos rfl] at spelled
      omega
    | false =>
      rw [sign, if_neg (by decide), if_neg (by decide)] at spelled
      exact .inl ⟨rfl, by omega⟩
  obtain ⟨small, ⟨subnormal, low, rfl⟩ | ⟨steps, rfl, normal, magnitude⟩⟩ :=
    magnitude_of_decode? decoded
  · -- Below the least normal double there is no integer but zero.
    have shift : 2 ^ 52 ≤ 2 ^ (-(-1074 : Int)).toNat := Nat.pow_le_pow_right (by decide) (by decide)
    have none : size = 0 := by
      rcases Nat.eq_zero_or_pos size with zero | positive
      · exact zero
      · have above := Nat.le_mul_of_pos_left (2 ^ (-(-1074 : Int)).toNat) positive
        rw [← shifted, show (-1074 : Int).toNat = 0 from rfl, Nat.pow_zero, Nat.mul_one] at above
        omega
    rcases sized with ⟨sign, sized⟩ | sized
    · exact ⟨sized.trans none, sign⟩
    · omega
  · -- From there on the word counts the binades, and the integer doubles with each.
    exfalso
    by_cases fraction : steps < 1074
    · have shift : 2 ≤ 2 ^ (-((steps : Int) - 1074)).toNat :=
        Nat.le_self_pow (by omega) 2
      have halved := Nat.mul_le_mul_left size shift
      rw [← shifted, (by omega : ((steps : Int) - 1074).toNat = 0), Nat.pow_zero,
        Nat.mul_one] at halved
      omega
    · obtain ⟨power, rfl⟩ := Nat.exists_eq_add_of_le (Nat.not_lt.mp fraction)
      rw [(by omega : (-(((1074 + power : Nat) : Int) - 1074)).toNat = 0), Nat.pow_zero,
        Nat.mul_one, (by omega : (((1074 + power : Nat) : Int) - 1074).toNat = power)] at shifted
      have bounded : power < 12 := by
        by_contra far
        have least : 2 ^ 12 ≤ 2 ^ power := Nat.pow_le_pow_right (by decide) (by omega)
        have above := Nat.mul_le_mul normal least
        rw [shifted] at above
        have word := x.magnitude_lt
        omega
      interval_cases power <;> omega

end Binary64

end SqlQuery
