import SqlQuery.Value

/-! # Result rows

A row pairs column names with values. A value is found by the first column of its name; the JSON
object of a row keeps the last.
-/

namespace SqlQuery

structure Row where
  columns : List String
  values : List Value
  deriving DecidableEq, Repr

/-- What a statement returns. -/
structure ResultSet where
  headers : List String := []
  rows : List (List Value) := []
  deriving DecidableEq, Repr

def ResultSet.toRows (result : ResultSet) : List Row :=
  result.rows.map fun values => ⟨result.headers, values⟩

namespace Row

def get? (row : Row) (column : String) : Option Value :=
  (row.columns.findIdx? fun name => name = column).bind fun index => row.values[index]?

def getIndex? (row : Row) (index : Nat) : Option Value :=
  row.values[index]?

/-- The columns that have a value, with it. -/
def entries (row : Row) : List (String × Value) :=
  row.columns.zip row.values

/-- The row as a dictionary of JSON values. -/
def toDictionary (row : Row) : Dictionary Json :=
  Dictionary.ofList (row.entries.map fun entry => (entry.1, entry.2.toJson))

/-- The row as a JSON object with its members by name. -/
def toJson (row : Row) : Json :=
  .object row.toDictionary.entries

/-- The row as a JSON object with its members in column order, repeated names included. -/
def serialize (row : Row) : Json :=
  .object (row.entries.map fun entry => (entry.1, entry.2.toJson))

end Row

end SqlQuery
