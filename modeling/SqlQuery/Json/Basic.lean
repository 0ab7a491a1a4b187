import SqlQuery.Number.Layout
import SqlQuery.Number.Numeral

/-! # JSON values

Objects keep their members as written: in order, with repeated names. A number is an integer when it
is written without fraction and exponent and fits 64 bits, signed or unsigned; every other number is
a double.

A text can be well formed and yet spell something without a value: a number beyond the doubles, half
of a surrogate pair, or containers nested too deep. Such a part is `unreadable`; it does no harm
where it is passed over, and is refused where it is wanted.
-/

namespace SqlQuery

inductive Json
  | null
  | bool (value : Bool)
  | integer (value : Int)
  | double (value : Binary64)
  | string (value : String)
  | array (items : List Json)
  | object (members : List (String × Json))
  | unreadable

namespace Json

instance : Inhabited Json := ⟨null⟩

/-- The integers that a number without fraction and exponent may stand for. -/
def integerInRange (value : Int) : Bool :=
  Int64.minValue.toInt ≤ value && value < UInt64.size

/-- The value of a number, given what stands for a number that is no integer. -/
def ofNumeral (double? : Numeral → Option Binary64) (numeral : Numeral) : Json :=
  match numeral.toInt?.filter integerInRange with
  | some value => integer value
  | none =>
    match double? numeral with
    | some value => double value
    | none => unreadable

/-- The value of the first member with a name. -/
def member? (name : String) : Json → Option Json
  | object members => members.lookup name
  | _ => none

/-! ## What can be read -/

mutual

/-- Whether no part is unreadable. -/
def isReadable : Json → Bool
  | unreadable => false
  | array items => areReadable items
  | object members => haveReadableValues members
  | null | bool _ | integer _ | double _ | string _ => true

def areReadable : List Json → Bool
  | [] => true
  | item :: rest => isReadable item && areReadable rest

def haveReadableValues : List (String × Json) → Bool
  | [] => true
  | (_, value) :: rest => isReadable value && haveReadableValues rest

end

/-- Arrays and objects may be nested this deep in a text. -/
def nestingLimit : Nat := 127

mutual

/-- The same value with every container nested deeper than a limit unreadable. -/
def limitNesting : Nat → Json → Json
  | 0, array _ => unreadable
  | 0, object _ => unreadable
  | limit + 1, array items => array (limitItems limit items)
  | limit + 1, object members => object (limitMembers limit members)
  | _, null => null
  | _, bool value => bool value
  | _, integer value => integer value
  | _, double value => double value
  | _, string value => string value
  | _, unreadable => unreadable

def limitItems : Nat → List Json → List Json
  | _, [] => []
  | limit, item :: rest => limitNesting limit item :: limitItems limit rest

def limitMembers : Nat → List (String × Json) → List (String × Json)
  | _, [] => []
  | limit, (name, value) :: rest => (name, limitNesting limit value) :: limitMembers limit rest

end

end Json

end SqlQuery
