import SqlQuery.Number.Binary64

/-! # Decimals as doubles

Two rules give a decimal a double. One takes the nearest. The other computes with doubles: the digits
are rounded to a double, and that is multiplied or divided by a power of ten. Each of its steps
rounds, so its result can differ from the nearest double in the last bits. Both give none for a
decimal beyond the greatest double.
-/

namespace SqlQuery

/-- The number `digits · 10 ^ exponent`. -/
structure Decimal where
  digits : Nat
  exponent : Int
  deriving DecidableEq, Repr

namespace Decimal

/-- The word of the nearest magnitude. Exponents far outside the range are decided by the length of
the digits alone. -/
def nearestWord? (decimal : Decimal) : Option Nat :=
  if decimal.digits = 0 then some 0
  else
    let length : Int := (Nat.toDigits 10 decimal.digits).length
    if 400 < length + decimal.exponent then none
    else if length + decimal.exponent < -400 then some 0
    else
      let word := BinaryFormat.double.nearestWordOfDecimal decimal.digits decimal.exponent
      if word < BinaryFormat.double.infinityWord then some word else none

/-- The greatest exponent whose power of ten is a finite double. -/
def greatestPower : Nat := 308

/-- The word of the magnitude nearest to a power of ten. -/
def powerWord (exponent : Nat) : Nat :=
  BinaryFormat.double.nearestWordOfDecimal 1 exponent

/-- Scales a magnitude by a power of ten: one multiplication, or divisions by the greatest power
until what is left of the exponent is in range. -/
def scaleWord? (word : Nat) (exponent : Int) : Option Nat :=
  if word = 0 then some 0
  else if 0 ≤ exponent then
    if exponent ≤ greatestPower then
      let product := BinaryFormat.double.productWord word (powerWord exponent.toNat)
      if product < BinaryFormat.double.infinityWord then some product else none
    else none
  else if -greatestPower ≤ exponent then
    some (BinaryFormat.double.quotientWord word (powerWord (-exponent).toNat))
  else
    scaleWord? (BinaryFormat.double.quotientWord word (powerWord greatestPower))
      (exponent + greatestPower)
termination_by (-exponent).toNat
decreasing_by
  simp only [greatestPower] at *
  omega

/-- The word that is computed from the digits as a double and the power of ten. -/
def scaledWord? (decimal : Decimal) : Option Nat :=
  scaleWord? (BinaryFormat.double.nearestWord decimal.digits 1) decimal.exponent

end Decimal

end SqlQuery
