import SqlQuery.Number.Shortest

/-! # Writing numbers

A layout says how the shortest decimal of a number is written out. Statements and plain texts spell
every digit; JSON switches to an exponent outside a range and marks an integral number with `.0`.
-/

namespace SqlQuery

/-- How a number is written. `positional` is the range of leading exponents that are written without
an exponent; `none` means all of them. -/
structure Layout where
  tie : Tie
  positional : Option (Int × Int)
  integralMark : String

namespace Layout

/-- Every digit is written, and an integral number has no fraction. -/
def plain : Layout := ⟨.away, none, ""⟩

/-- An exponent stands from `1e+16` on and below `1e-5`, and an integral number ends in `.0`. -/
def json : Layout := ⟨.toEven, some (-5, 15), ".0"⟩

/-- The digits with a point, `exponent` counting from the last digit. -/
def positionalText (mark : String) (digits : List Char) (exponent : Int) : String :=
  if 0 ≤ exponent then
    String.ofList (digits ++ List.replicate exponent.toNat '0') ++ mark
  else
    let places := (-exponent).toNat
    let whole := digits.length - places
    let padded := List.replicate (places - digits.length) '0' ++ digits.drop whole
    let head := if whole = 0 then ['0'] else digits.take whole
    String.ofList (head ++ '.' :: padded)

/-- One digit, the others after a point, and the signed exponent of the first digit. -/
def exponentText (digits : List Char) (leading : Int) : String :=
  let fraction := match digits.drop 1 with
    | [] => []
    | rest => '.' :: rest
  let sign := if leading < 0 then "-" else "+"
  String.ofList (digits.take 1 ++ fraction) ++ "e" ++ sign ++ toString leading.natAbs

def decimalText (layout : Layout) (decimal : Decimal) : String :=
  let digits := Nat.toDigits 10 decimal.digits
  let leading : Int := decimal.exponent + (digits.length - 1 : Nat)
  let spelled := match layout.positional with
    | none => true
    | some (least, greatest) => least ≤ leading && leading ≤ greatest
  if spelled then positionalText layout.integralMark digits decimal.exponent
  else exponentText digits leading

end Layout

/-- The text of a finite number. -/
def Binary64.finiteText (x : Binary64) (layout : Layout) : String :=
  let magnitude := match x.shortest? layout.tie with
    | none => "0" ++ layout.integralMark
    | some decimal => layout.decimalText decimal
  if x.isNegative then "-" ++ magnitude else magnitude

/-- The text of any number; a number that is not finite has a name. -/
def Binary64.toText (x : Binary64) : String :=
  if x.isFinite then x.finiteText .plain
  else if x.isNaN then "NaN"
  else if x.isNegative then "-inf"
  else "inf"

instance : ToString Binary64 := ⟨Binary64.toText⟩

end SqlQuery
