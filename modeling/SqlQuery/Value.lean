import SqlQuery.Json.Record

/-! # Values

The scalars that a query binds and a result row holds. Every back end can store and return them.
-/

namespace SqlQuery

inductive Value
  | null
  | bool (value : Bool)
  | int (value : Int64)
  | float (value : Binary64)
  | text (value : String)
  deriving DecidableEq, Repr

namespace Value

instance : Inhabited Value := ⟨null⟩

def int64InRange (n : Int) : Bool :=
  Int64.minValue.toInt ≤ n && n ≤ Int64.maxValue.toInt

def typeName : Value → String
  | null => "null"
  | bool _ => "bool"
  | int _ => "int"
  | float _ => "float"
  | text _ => "string"

def display : Value → String
  | null => "null"
  | bool value => if value then "true" else "false"
  | int value => toString value.toInt
  | float value => value.toText
  | text value => value

/-- The least integer as a double. -/
def leastDouble : Binary64 := .ofInt Int64.minValue.toInt

/-- The double nearest to the greatest integer, which is greater than that. -/
def greatestDouble : Binary64 := .ofInt Int64.maxValue.toInt

/-- The integer that a value is: an integer itself, or a number without fraction that is cast to
one. The rounded upper bound is out of range, so it is excluded. -/
def toInt? : Value → Option Int64
  | int value => some value
  | float value =>
    if value.isWhole && leastDouble.isAtMost value && value.isLess greatestDouble then
      some value.toInt64
    else none
  | _ => none

def toBinary64? : Value → Option Binary64
  | int value => some (Binary64.ofInt value.toInt)
  | float value => some value
  | _ => none

def toBool? : Value → Option Bool
  | bool value => some value
  | _ => none

def toText? : Value → Option String
  | text value => some value
  | _ => none

def isNull : Value → Bool
  | null => true
  | _ => false

/-- A number that is not finite has no JSON form and becomes null. -/
def toJson : Value → Json
  | null => .null
  | bool value => .bool value
  | int value => .integer value.toInt
  | float value => if value.isFinite then .double value else .null
  | text value => .string value

/-- A JSON scalar as a value; an integer outside the signed range becomes the nearest float. -/
def ofJson? : Json → Option Value
  | .null => some null
  | .bool value => some (bool value)
  | .integer value =>
    if int64InRange value then some (int (Int64.ofInt value))
    else some (float (Binary64.ofInt value))
  | .double value => some (float value)
  | .string value => some (text value)
  | _ => none

end Value

end SqlQuery
