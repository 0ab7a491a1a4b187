import SqlQuery.Query.Basic

/-! # Running queries

A query in use has a connection and remembers the requests it sent. Each operation renders first and
sends only what it rendered, so a failed rendering sends nothing. Listing keeps the window that it
was asked for; counting leaves the window alone.
-/

namespace SqlQuery

structure ActiveQuery where
  query : Query
  connection : Connection
  sent : List Request := []

namespace ActiveQuery

variable (active : ActiveQuery)

/-- Changes the query. -/
def update (change : Query → Query) : ActiveQuery :=
  { active with query := change active.query }

/-- Renders the query and keeps what the rendering leaves of it. -/
def render (statement : Query → Except RenderError String × Query) :
    Except RenderError String × ActiveQuery :=
  let (result, query) := statement active.query
  (result, { active with query })

/-- Sends a statement with the query's parameters. -/
def send (target : Option Target) (sql : String) : Except DatabaseError (List Row) × ActiveQuery :=
  let request : Request := ⟨target, sql, active.query.parameters⟩
  (active.connection.rows active.sent request, { active with sent := active.sent ++ [request] })

/-- Renders the query, sends the statement and reads the rows it returns. -/
def fetch {α : Type} (statement : Query → Except RenderError String × Query)
    (target : Option Target) (read : List Row → Except QueryError α) :
    Except QueryError α × ActiveQuery :=
  match active.render statement with
  | (.error cause, active) => (.error (.render cause), active)
  | (.ok sql, active) =>
    match active.send target sql with
    | (.error cause, active) => (.error (.database cause), active)
    | (.ok rows, active) => (read rows, active)

/-- The rows in a window, which becomes the query's own. -/
def list (window : Window) : Except QueryError (List Row) × ActiveQuery :=
  (active.update (·.setWindow window)).fetch Query.toSql (some active.query.target) .ok

/-- The rows in the query's window. -/
def listAll : Except QueryError (List Row) × ActiveQuery :=
  active.list active.query.window

/-- The window of the first row. -/
def firstRow : Window := ⟨some 1, 0⟩

/-- The first row, if there is one. -/
def single : Except QueryError (Option Row) × ActiveQuery :=
  let (rows, active) := active.list firstRow
  (rows.map List.head?, active)

/-- The count in a result of one row. -/
def readCount (rows : List Row) : Except QueryError Int64 :=
  match Row.scalars rows with
  | .error cause => .error (.database cause)
  | .ok [count] => .ok count
  | .ok counts => .error (.cardinality 1 counts.length)

/-- The number of rows of the select, without order and window. -/
def count : Except QueryError Int64 × ActiveQuery :=
  active.fetch Query.toCountSql none readCount

/-! ## Typed rows -/

section

variable {α : Type} (deserialize : Deserializer α)

def readAs (rows : List Row) : Except QueryError (List α) :=
  (Row.readAll deserialize rows).mapError .database

/-- The rows in a window, as values of a row type. -/
def listAs (window : Window) : Except QueryError (List α) × ActiveQuery :=
  (active.update (·.setWindow window)).fetch Query.toSql (some active.query.target)
    (readAs deserialize)

def listAllAs : Except QueryError (List α) × ActiveQuery :=
  active.listAs deserialize active.query.window

/-- The first of the rows, all of which are read. -/
def singleAs : Except QueryError (Option α) × ActiveQuery :=
  let (rows, active) := active.listAs deserialize firstRow
  (rows.map List.head?, active)

end

/-! ## Rows in a shape -/

def readTyped (shape : Shape) : List Row → Except QueryError (List Json) :=
  readAs shape.deserialize

def listTyped (shape : Shape) (window : Window) : Except QueryError (List Json) × ActiveQuery :=
  active.listAs shape.deserialize window

def listAllTyped (shape : Shape) : Except QueryError (List Json) × ActiveQuery :=
  active.listAllAs shape.deserialize

def singleTyped (shape : Shape) : Except QueryError (Option Json) × ActiveQuery :=
  active.singleAs shape.deserialize

end ActiveQuery

/-! ## Steps -/

/-- What can be done with a query. -/
inductive Step
  | add (condition : Expression)
  | addOrder (order : Order)
  | setProjection (projection : Projection)
  | setParameterized (parameterized : Bool)
  | setWindow (window : Window)
  | sql
  | countSql
  | selectSql
  | list (window : Window)
  | listAll
  | single
  | count

/-- What a step returns. -/
inductive Outcome
  | done
  | text (sql : String)
  | rows (rows : List Row)
  | typed (rows : List Json)
  | count (count : Int64)

namespace ActiveQuery

variable (active : ActiveQuery)

/-- Renders without sending. -/
def renderStep (statement : Query → Except RenderError String × Query) :
    Except QueryError Outcome × ActiveQuery :=
  let (sql, active) := active.render statement
  ((sql.map Outcome.text).mapError .render, active)

/-- Takes a step; with a shape, rows are read in it. -/
def step (shape : Option Shape) : Step → Except QueryError Outcome × ActiveQuery
  | .add condition => (.ok .done, active.update (·.add condition))
  | .addOrder order => (.ok .done, active.update (·.addOrder order))
  | .setProjection projection => (.ok .done, active.update (·.setProjection projection))
  | .setParameterized parameterized =>
    (.ok .done, active.update (·.setParameterized parameterized))
  | .setWindow window => (.ok .done, active.update (·.setWindow window))
  | .sql => active.renderStep Query.toSql
  | .countSql => active.renderStep Query.toCountSql
  | .selectSql => active.renderStep Query.toSelectSql
  | .list window =>
    match shape with
    | none => let (rows, active) := active.list window; (rows.map .rows, active)
    | some shape => let (rows, active) := active.listTyped shape window; (rows.map .typed, active)
  | .listAll =>
    match shape with
    | none => let (rows, active) := active.listAll; (rows.map .rows, active)
    | some shape => let (rows, active) := active.listAllTyped shape; (rows.map .typed, active)
  | .single =>
    match shape with
    | none => let (row, active) := active.single; (row.map (.rows ·.toList), active)
    | some shape =>
      let (row, active) := active.singleTyped shape
      (row.map (.typed ·.toList), active)
  | .count => let (count, active) := active.count; (count.map .count, active)

end ActiveQuery

end SqlQuery
