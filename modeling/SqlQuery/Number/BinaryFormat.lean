/-! # Binary floating-point formats

A format is two field widths. Its finite magnitudes are `significand · 2 ^ exponent`; a magnitude is
stored as exponent field and fraction field, and the stored words of non-negative numbers are
ordered as the numbers are. Rounding goes to the nearest magnitude, a tie to the even word.
-/

namespace SqlQuery

structure BinaryFormat where
  fractionBits : Nat
  exponentBits : Nat
  deriving DecidableEq, Repr

namespace BinaryFormat

def single : BinaryFormat := ⟨23, 8⟩

def double : BinaryFormat := ⟨52, 11⟩

variable (format : BinaryFormat)

/-- The exponent of the unit of the smallest magnitudes. -/
def leastExponent : Int :=
  2 - (Nat.pow 2 (format.exponentBits - 1) : Int) - format.fractionBits

/-- The word of infinity: all exponent bits set, no fraction bits. -/
def infinityWord : Nat :=
  (Nat.pow 2 format.exponentBits - 1) * Nat.pow 2 format.fractionBits

/-- The word of the quiet not-a-number without payload. -/
def nanWord : Nat :=
  format.infinityWord + Nat.pow 2 (format.fractionBits - 1)

/-- The sign bit, which stands above the bits of the magnitude. -/
def signBit : Nat :=
  Nat.pow 2 (format.exponentBits + format.fractionBits)

/-- The significand and exponent of a finite word. -/
def decode? (word : Nat) : Option (Nat × Int) :=
  if format.infinityWord ≤ word then none
  else
    let fraction := word % Nat.pow 2 format.fractionBits
    let field := word / Nat.pow 2 format.fractionBits
    if field = 0 then some (fraction, format.leastExponent)
    else some (fraction + Nat.pow 2 format.fractionBits, format.leastExponent + (field - 1 : Nat))

end BinaryFormat

/-- The nearest natural number to a quotient; a tie goes to the even one. -/
def roundQuotient (numerator denominator : Nat) : Nat :=
  let quotient := numerator / denominator
  let twice := 2 * (numerator % denominator)
  if denominator < twice ∨ (denominator = twice ∧ quotient % 2 = 1) then quotient + 1 else quotient

/-- `numerator / denominator / 2 ^ exponent` as a quotient of natural numbers. -/
def scaledQuotient (numerator denominator : Nat) (exponent : Int) : Nat × Nat :=
  if 0 ≤ exponent then (numerator, denominator * Nat.pow 2 exponent.toNat)
  else (numerator * Nat.pow 2 (-exponent).toNat, denominator)

/-- The greatest exponent with `2 ^ exponent ≤ numerator / denominator`, both being positive. -/
def floorLog2 (numerator denominator : Nat) : Int :=
  let estimate : Int := (Nat.log2 numerator : Int) - Nat.log2 denominator
  let (above, below) := scaledQuotient numerator denominator estimate
  if below ≤ above then estimate else estimate - 1

namespace BinaryFormat

variable (format : BinaryFormat)

/-- The word of the magnitude nearest to a quotient; beyond the greatest magnitude it is infinity. -/
def nearestWord (numerator denominator : Nat) : Nat :=
  if numerator = 0 then 0
  else
    let exponent := max format.leastExponent
      (floorLog2 numerator denominator - format.fractionBits)
    let (above, below) := scaledQuotient numerator denominator exponent
    let units := roundQuotient above below
    min format.infinityWord
      ((exponent - format.leastExponent).toNat * Nat.pow 2 format.fractionBits + units)

/-- The word of the magnitude nearest to `significand · 2 ^ exponent`. -/
def nearestWordOfBinary (significand : Nat) (exponent : Int) : Nat :=
  if 0 ≤ exponent then format.nearestWord (significand * Nat.pow 2 exponent.toNat) 1
  else format.nearestWord significand (Nat.pow 2 (-exponent).toNat)

/-- The word of the magnitude nearest to `digits · 10 ^ exponent`. -/
def nearestWordOfDecimal (digits : Nat) (exponent : Int) : Nat :=
  if 0 ≤ exponent then format.nearestWord (digits * Nat.pow 10 exponent.toNat) 1
  else format.nearestWord digits (Nat.pow 10 (-exponent).toNat)

/-- The word of the magnitude nearest to the product of two magnitudes. -/
def productWord (left right : Nat) : Nat :=
  match format.decode? left, format.decode? right with
  | some (left, leftExponent), some (right, rightExponent) =>
    format.nearestWordOfBinary (left * right) (leftExponent + rightExponent)
  | _, _ => format.infinityWord

/-- The word of the magnitude nearest to the quotient of two magnitudes, the second not zero. -/
def quotientWord (left right : Nat) : Nat :=
  match format.decode? left, format.decode? right with
  | some (left, leftExponent), some (right, rightExponent) =>
    let exponent := leftExponent - rightExponent
    if 0 ≤ exponent then format.nearestWord (left * Nat.pow 2 exponent.toNat) right
    else format.nearestWord left (right * Nat.pow 2 (-exponent).toNat)
  | _, _ => format.infinityWord

end BinaryFormat

end SqlQuery
