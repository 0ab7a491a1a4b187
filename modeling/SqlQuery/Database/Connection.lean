import SqlQuery.Bindings
import SqlQuery.Database.Shape
import SqlQuery.Mapping

/-! # Connections

A connection answers a request with a result set or an error text, in view of the requests sent on
it before. The helpers turn its answer into rows, typed rows or integers.
-/

namespace SqlQuery

/-- A statement with its parameters, sent on behalf of a target if the rows belong to one. -/
structure Request where
  target : Option Target
  sql : String
  parameters : Parameters

structure Connection where
  backend : String
  answer : List Request → Request → Except String ResultSet

namespace Connection

/-- Answers no request. -/
def disconnected : Connection :=
  ⟨"Disconnected", fun _ _ => .error "no database connection configured"⟩

/-- Answers the requests in turn by given results. -/
def scripted (results : List (Except String ResultSet)) : Connection :=
  ⟨"Scripted", fun earlier _ => results[earlier.length]?.getD (.error "no scripted result")⟩

variable (connection : Connection) (earlier : List Request) (request : Request)

def rows : Except DatabaseError (List Row) :=
  match connection.answer earlier request with
  | .ok result => .ok result.toRows
  | .error message => .error (.execution message)

end Connection

/-- Rows as values of a row type. -/
def Row.readAll {α : Type} (deserialize : Deserializer α) (rows : List Row) :
    Except DatabaseError (List α) :=
  match deserializeAll deserialize rows with
  | .ok typed => .ok typed
  | .error cause => .error (.deserialize cause)

/-- Rows in a shape. -/
def Shape.rows (shape : Shape) (rows : List Row) : Except DatabaseError (List Json) :=
  Row.readAll shape.deserialize rows

/-- The integer of a row that is a single integer. -/
def Row.scalar (row : Row) : Except DatabaseError Int64 :=
  match row.values with
  | [value] =>
    match value.toInt? with
    | some n => .ok n
    | none => .error (.invalidScalar value.typeName)
  | values => .error (.unexpectedColumns values.length)

/-- The integers of rows; the first row that is no single integer decides. -/
def Row.scalars : List Row → Except DatabaseError (List Int64)
  | [] => .ok []
  | row :: rest => do
    let first ← row.scalar
    let others ← scalars rest
    return first :: others

end SqlQuery
