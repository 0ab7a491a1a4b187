import SqlQuery.Database.Connection
import SqlQuery.Postgres.Placeholders
import SqlQuery.Postgres.Wire
import SqlQuery.Text.Terminated

/-! # Connections to PostgreSQL

A request is prepared with positional placeholders, its parameters are sent in the declared types, one
for each, and the cells of the answer are read by the types of their columns.
-/

namespace SqlQuery.Postgres

/-- What a server declares for a statement and returns for it. -/
structure Reply where
  parameterTypes : List ColumnType := []
  columns : List (String × ColumnType) := []
  rows : List (List Datum) := []
  deriving DecidableEq, Repr

/-- A server refuses a statement or replies to it. -/
abbrev Server := String → Option Reply

/-- What a server gets for one request: the prepared text, and the parameters if they were sent. -/
structure Exchange where
  sql : String
  bound : Option (List Datum)
  deriving DecidableEq, Repr

/-- Values in the types declared for them, or the position of the first that cannot be sent. -/
def encodeAll : Nat → List (Value × ColumnType) → Except Nat (List Datum)
  | _, [] => .ok []
  | index, (value, type) :: rest =>
    match encode value type with
    | .error _ => .error index
    | .ok datum => do
      let others ← encodeAll (index + 1) rest
      return datum :: others

/-- The rows of a reply; a statement without columns returns none. -/
def Reply.result (reply : Reply) : ResultSet :=
  { headers := reply.columns.map (·.1)
    rows :=
      if reply.columns.isEmpty then []
      else reply.rows.map fun cells =>
        (reply.columns.zip cells).map fun (column, datum) => decode column.2 datum }

/-- What becomes of a message with a text that holds a zero. -/
def notSendableMessage : String := "error encoding message to server"

/-- What becomes of a statement for which there are more or fewer values than declared types. -/
def countMessage (declared given : Nat) : String :=
  "expected " ++ toString declared ++ " parameters but got " ++ toString given

/-- Runs a request on a server; gives the answer and what the server got. A statement that holds a
zero is not sent, and values are sent only if the server declares a type for each of them. -/
def exchange (server : Server) (marker : String) (request : Request) :
    Except String ResultSet × Option Exchange :=
  let (sql, names) := toPositional request.sql marker request.parameters.contains
  let values := names.filterMap request.parameters.find?
  if Text.hasZero sql then (.error notSendableMessage, none)
  else
    match server sql with
    | none => (.error "db error", some ⟨sql, none⟩)
    | some reply =>
      let types := reply.parameterTypes
      if types.length ≠ values.length then
        (.error (countMessage types.length values.length), some ⟨sql, none⟩)
      else
        match encodeAll 0 (values.zip types) with
        | .error index =>
          (.error ("error serializing parameter " ++ toString index), some ⟨sql, none⟩)
        | .ok bound => (.ok reply.result, some ⟨sql, some bound⟩)

def backendName : String := "PostgreSQL"

/-- The marker of placeholders unless a dialect says otherwise. -/
def defaultMarker : String := ":"

def connection (server : Server) (marker : String) : Connection :=
  ⟨backendName, fun _ request => (exchange server marker request).1⟩

end SqlQuery.Postgres
