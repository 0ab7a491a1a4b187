import SqlQuery.Number.Decimal

/-! # Numerals

A numeral keeps its digits as written. All of them make a decimal, whose nearest double it stands
for; where speed goes before the last bits, only the leading digits that fit 64 bits count, and the
double is computed by scaling.
-/

namespace SqlQuery

/-- A number as written: a sign, digits around the point, and a power of ten with its sign. -/
structure Numeral where
  negative : Bool
  whole : List Char
  fraction : Option (List Char)
  exponent : Option (Bool × List Char)
  deriving DecidableEq, Repr

namespace Numeral

def digitValue (c : Char) : Nat := c.toNat - '0'.toNat

/-- The number that decimal digits spell. -/
def digitsValue (digits : List Char) : Nat :=
  digits.foldl (fun value c => value * 10 + digitValue c) 0

/-- The written power of ten, zero when there is none. -/
def power (numeral : Numeral) : Int :=
  match numeral.exponent with
  | none => 0
  | some (negative, digits) =>
    let size : Int := digitsValue digits
    if negative then -size else size

/-- The integer that a numeral without fraction and exponent spells. A negative zero is none. -/
def toInt? (numeral : Numeral) : Option Int :=
  match numeral.fraction, numeral.exponent with
  | none, none =>
    let size := digitsValue numeral.whole
    if numeral.negative then if size = 0 then none else some (-(size : Int)) else some size
  | _, _ => none

/-- The magnitude with all its digits. -/
def toDecimal (numeral : Numeral) : Decimal :=
  let fraction := numeral.fraction.getD []
  ⟨digitsValue (numeral.whole ++ fraction), numeral.power - fraction.length⟩

/-- Appends digits to a number as long as it fits 64 bits, and gives the digits that are left. -/
def appendDigits (value : Nat) : List Char → Nat × List Char
  | [] => (value, [])
  | c :: rest =>
    let next := value * 10 + digitValue c
    if next < UInt64.size then appendDigits next rest else (value, c :: rest)

/-- The magnitude with its leading digits. Digits left of the whole part count as zeros, and those
left of the fraction are dropped. -/
def leadingDecimal (numeral : Numeral) : Decimal :=
  let fraction := numeral.fraction.getD []
  let (digits, zeros) := appendDigits 0 numeral.whole
  let (digits, dropped) := appendDigits digits fraction
  ⟨digits, numeral.power + zeros.length - (fraction.length - dropped.length : Nat)⟩

/-- The nearest double. -/
def nearest? (numeral : Numeral) : Option Binary64 :=
  numeral.toDecimal.nearestWord?.map (Binary64.ofMagnitude numeral.negative)

/-- The double computed from the leading digits. -/
def scaled? (numeral : Numeral) : Option Binary64 :=
  numeral.leadingDecimal.scaledWord?.map (Binary64.ofMagnitude numeral.negative)

/-! ## Integers in settings -/

/-- The number that digits spell, if there are any and nothing else. -/
def natural? (digits : List Char) : Option Nat :=
  if digits.isEmpty || !digits.all Char.isDigit then none else some (digitsValue digits)

/-- A number below a bound, possibly after a plus sign. -/
def unsigned? (bound : Nat) (text : String) : Option Nat :=
  let digits := match text.toList with
    | '+' :: rest => rest
    | cs => cs
  (natural? digits).filter (· < bound)

/-- An integer of 64 bits, possibly after a sign. -/
def signed? (text : String) : Option Int64 :=
  let value? : Option Int := match text.toList with
    | '-' :: rest => (natural? rest).map fun size => -(size : Int)
    | '+' :: rest => (natural? rest).map fun size => (size : Int)
    | cs => (natural? cs).map fun size => (size : Int)
  (value?.filter fun value => Int64.minValue.toInt ≤ value && value ≤ Int64.maxValue.toInt).map
    Int64.ofInt

end Numeral

end SqlQuery
