import SqlQuery.Number.BinaryFormat

/-! # Double-precision numbers

A number is its 64-bit word, so equality is bit for bit and every conversion is exact integer
arithmetic on the fields.
-/

namespace SqlQuery

structure Binary64 where
  word : UInt64
  deriving DecidableEq, Repr

namespace Binary64

/-- A magnitude word with a sign. -/
def ofMagnitude (negative : Bool) (magnitude : Nat) : Binary64 :=
  ⟨UInt64.ofNat (magnitude + if negative then BinaryFormat.double.signBit else 0)⟩

def zero : Binary64 := ofMagnitude false 0

def infinity : Binary64 := ofMagnitude false BinaryFormat.double.infinityWord

def negativeInfinity : Binary64 := ofMagnitude true BinaryFormat.double.infinityWord

def nan : Binary64 := ofMagnitude false BinaryFormat.double.nanWord

instance : Inhabited Binary64 := ⟨zero⟩

def isNegative (x : Binary64) : Bool :=
  BinaryFormat.double.signBit ≤ x.word.toNat

/-- The word without its sign. -/
def magnitude (x : Binary64) : Nat :=
  x.word.toNat % BinaryFormat.double.signBit

def isFinite (x : Binary64) : Bool :=
  x.magnitude < BinaryFormat.double.infinityWord

def isNaN (x : Binary64) : Bool :=
  BinaryFormat.double.infinityWord < x.magnitude

def isZero (x : Binary64) : Bool :=
  x.magnitude = 0

/-- Significand and exponent of the magnitude of a finite number. -/
def decode? (x : Binary64) : Option (Nat × Int) :=
  BinaryFormat.double.decode? x.magnitude

/-- The integer that a number is, if it is one. -/
def toInt? (x : Binary64) : Option Int :=
  match x.decode? with
  | none => none
  | some (significand, exponent) =>
    let size : Option Nat :=
      if 0 ≤ exponent then some (significand * Nat.pow 2 exponent.toNat)
      else if significand % Nat.pow 2 (-exponent).toNat = 0 then
        some (significand / Nat.pow 2 (-exponent).toNat)
      else none
    size.map fun n => if x.isNegative then -(n : Int) else n

/-- Whether a number is finite and has no fraction. -/
def isWhole (x : Binary64) : Bool :=
  x.decode?.any fun (significand, exponent) =>
    0 ≤ exponent || significand % Nat.pow 2 (-exponent).toNat = 0

/-- A finite number without its fraction. -/
def truncate? (x : Binary64) : Option Int :=
  x.decode?.map fun (significand, exponent) =>
    let size :=
      if 0 ≤ exponent then significand * Nat.pow 2 exponent.toNat
      else significand / Nat.pow 2 (-exponent).toNat
    if x.isNegative then -(size : Int) else size

/-- A number cast to an integer: it loses its fraction, and beyond the range it becomes the nearer
end. What is not a number becomes zero. -/
def toInt64 (x : Binary64) : Int64 :=
  match x.truncate? with
  | some n => Int64.ofInt (max Int64.minValue.toInt (min n Int64.maxValue.toInt))
  | none => if x.isNaN then 0 else if x.isNegative then Int64.minValue else Int64.maxValue

/-- Where a number stands in the order: its word counts, backwards below zero. Both zeros stand in
one place, and what is not a number in none. -/
def place? (x : Binary64) : Option Int :=
  if x.isNaN then none
  else some (if x.isNegative then -(x.magnitude : Int) else x.magnitude)

/-- Compares two numbers; no comparison holds of what is not a number. -/
def compares (test : Int → Int → Bool) (x y : Binary64) : Bool :=
  match x.place?, y.place? with
  | some place, some other => test place other
  | _, _ => false

def isLess (x y : Binary64) : Bool :=
  compares (· < ·) x y

def isAtMost (x y : Binary64) : Bool :=
  compares (· ≤ ·) x y

/-- The number nearest to an integer. -/
def ofInt (n : Int) : Binary64 :=
  ofMagnitude (n < 0) (BinaryFormat.double.nearestWord n.natAbs 1)

/-- The single-precision word nearest to a number. -/
def toSingleWord (x : Binary64) : Nat :=
  let magnitude :=
    match x.decode? with
    | some (significand, exponent) =>
      BinaryFormat.single.nearestWordOfBinary significand exponent
    | none => if x.isNaN then BinaryFormat.single.nanWord else BinaryFormat.single.infinityWord
  magnitude + if x.isNegative then BinaryFormat.single.signBit else 0

/-- The single-precision word nearest to an integer. -/
def singleWordOfInt (n : Int) : Nat :=
  BinaryFormat.single.nearestWord n.natAbs 1 + if n < 0 then BinaryFormat.single.signBit else 0

/-- The number that a single-precision word stores; every such number is exact here. -/
def ofSingleWord (word : Nat) : Binary64 :=
  let magnitude := word % BinaryFormat.single.signBit
  let stored :=
    match BinaryFormat.single.decode? magnitude with
    | some (significand, exponent) =>
      BinaryFormat.double.nearestWordOfBinary significand exponent
    | none =>
      if magnitude = BinaryFormat.single.infinityWord then BinaryFormat.double.infinityWord
      else BinaryFormat.double.nanWord
  ofMagnitude (BinaryFormat.single.signBit ≤ word) stored

end Binary64

end SqlQuery
