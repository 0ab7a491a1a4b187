import SqlQuery.Number.Decimal

/-! # Shortest decimals

The shortest decimal of a finite number is the one with the fewest digits among those that round to
the number, and the nearest of these. The numbers that round to `m · 2 ^ q` form an interval around
it, whose ends belong to it when `m` is even; it is searched on decimal grids, the coarsest first,
at the two grid points next to the number.
-/

namespace SqlQuery

/-- Which of two equally near decimals is taken. -/
inductive Tie
  | toEven
  | away
  deriving DecidableEq, Repr

/-- A positive number and the interval that rounds to it, as integers of one scale. -/
structure RoundingInterval where
  low : Nat
  value : Nat
  high : Nat
  closed : Bool
  deriving Repr

namespace RoundingInterval

def contains (interval : RoundingInterval) (point : Nat) : Bool :=
  if interval.closed then interval.low ≤ point && point ≤ interval.high
  else interval.low < point && point < interval.high

/-- The multiple of `step` next to the value that lies in the interval, divided by `step`; of two
the nearer one. -/
def gridPoint? (interval : RoundingInterval) (tie : Tie) (step : Nat) : Option Nat :=
  let below := interval.value / step
  let above := below + 1
  match interval.contains (below * step), interval.contains (above * step) with
  | false, false => none
  | true, false => some below
  | false, true => some above
  | true, true =>
    let down := interval.value - below * step
    let up := above * step - interval.value
    if down < up then some below
    else if up < down then some above
    else match tie with
      | .toEven => some (if below % 2 = 0 then below else above)
      | .away => some above

/-- Searches the grids `unit · 10 ^ places`, `unit · 10 ^ (places - 1)`, … for the first with a
point in the interval. -/
def search (interval : RoundingInterval) (tie : Tie) (unit : Nat) : Nat → Nat × Nat
  | 0 => ((interval.gridPoint? tie unit).getD (interval.value / unit), 0)
  | places + 1 =>
    match interval.gridPoint? tie (unit * Nat.pow 10 (places + 1)) with
    | some digits => (digits, places + 1)
    | none => search interval tie unit places

end RoundingInterval

namespace Binary64

/-- The interval of a positive finite number, in quarter units of its last place, and the decimal
exponent of the scale. Below a power of two the gap is half as wide, except for the smallest. -/
def roundingInterval (significand : Nat) (exponent : Int) : RoundingInterval × Int :=
  let factor := if 0 ≤ exponent then Nat.pow 2 exponent.toNat else Nat.pow 5 (-exponent).toNat
  let narrow := significand = Nat.pow 2 BinaryFormat.double.fractionBits ∧
    BinaryFormat.double.leastExponent < exponent
  ({ low := (4 * significand - if narrow then 1 else 2) * factor
     value := 4 * significand * factor
     high := (4 * significand + 2) * factor
     closed := significand % 2 = 0 },
   min exponent 0)

/-- The shortest decimal of the magnitude of a finite number that is not zero. -/
def shortest? (x : Binary64) (tie : Tie) : Option Decimal :=
  match x.decode? with
  | none => none
  | some (significand, exponent) =>
    if significand = 0 then none
    else
      let (interval, scale) := roundingInterval significand exponent
      let places := (Nat.toDigits 10 (interval.value / 4)).length
      let (digits, place) := interval.search tie 4 places
      some ⟨digits, scale + place⟩

end Binary64

end SqlQuery
