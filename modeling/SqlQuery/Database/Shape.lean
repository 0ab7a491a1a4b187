import SqlQuery.Database.Row
import SqlQuery.Error
import SqlQuery.Text.Visible

/-! # Typed rows

A row type makes its values of the JSON objects of rows. A shape is one that names the fields that a
row must have: members are checked in the order of their names, unknown ones are skipped; fields
without a member are looked for afterwards, in the declared order, and only an optional one may be
missing.
-/

namespace SqlQuery

/-- Makes a value of a row type of the JSON object of a row. -/
abbrev Deserializer (α : Type) := Dictionary Json → Except ShapeError α

/-- Rows as values of a row type; the first that fails decides. -/
def Row.deserializeAll {α : Type} (deserialize : Deserializer α) :
    List Row → Except ShapeError (List α)
  | [] => .ok []
  | row :: rest => do
    let first ← deserialize row.toDictionary
    let others ← deserializeAll deserialize rest
    return first :: others

inductive FieldType
  | integer
  | text
  deriving DecidableEq, Repr

def FieldType.expected : FieldType → String
  | integer => "i64"
  | text => "a string"

structure FieldShape where
  name : String
  type : FieldType
  optional : Bool := false
  deriving DecidableEq, Repr

/-- A record of fields, or any object. -/
inductive Shape
  | record (fields : List FieldShape)
  | anyObject
  deriving DecidableEq, Repr

/-- A JSON value as error messages describe it. -/
def Json.describe : Json → String
  | null | unreadable => "null"
  | bool value => "boolean \x60" ++ (if value then "true" else "false") ++ "\x60"
  | integer value => "integer \x60" ++ toString value ++ "\x60"
  | double value => "floating point \x60" ++ value.finiteText .json ++ "\x60"
  | string value => "string " ++ Text.visible value
  | array _ => "sequence"
  | object _ => "map"

namespace FieldShape

/-- Checks the value of a field; null stands for a missing optional value. -/
def check (field : FieldShape) (value : Json) : Except ShapeError Json :=
  match field.type, value with
  | .integer, .integer n => .ok (.integer n)
  | .text, .string text => .ok (.string text)
  | _, .null =>
    if field.optional then .ok .null
    else .error (.invalidType Json.null.describe field.type.expected)
  | _, other => .error (.invalidType other.describe field.type.expected)

end FieldShape

namespace Shape

/-- Checks the members whose names are fields. -/
def checkMembers (fields : List FieldShape) :
    List (String × Json) → Except ShapeError (List (String × Json))
  | [] => .ok []
  | (name, value) :: rest =>
    match fields.find? fun field => field.name = name with
    | none => checkMembers fields rest
    | some field => do
      let value ← field.check value
      let others ← checkMembers fields rest
      return (name, value) :: others

/-- Puts checked members in the order of the fields. -/
def collect (members : List (String × Json)) :
    List FieldShape → Except ShapeError (List (String × Json))
  | [] => .ok []
  | field :: rest => do
    let value ← match members.lookup field.name with
      | some value => .ok value
      | none => if field.optional then .ok .null else .error (.missingField field.name)
    let others ← collect members rest
    return (field.name, value) :: others

/-- An object in this shape, with its fields alone. -/
def deserialize (shape : Shape) : Deserializer Json := fun object =>
  match shape with
  | anyObject => .ok (.object object.entries)
  | record fields => do
    let members ← checkMembers fields object.entries
    let members ← collect members fields
    return .object members

end Shape

end SqlQuery
