import SqlQuery.Database.Connection
import SqlQuery.Render.Tree

/-! # Queries

A query holds the conditions, projection, orders and paging window for one target. Rendering starts
from fresh bindings each time and replaces the query's parameters only when it succeeds.
-/

namespace SqlQuery

/-- A window of rows: at most `limit` rows, if there is a limit, after the first `offset`. -/
structure Window where
  limit : Option UInt64 := none
  offset : UInt64 := 0
  deriving DecidableEq, Repr

structure Query where
  target : Target
  table : Option Table
  dialect : Dialect
  catalog : Option String
  schema : Option String
  conditions : List Expression := []
  projection : Option Projection := none
  orders : List Order := []
  parameterized : Bool := true
  window : Window := {}
  /-- The bindings of the latest successful rendering. -/
  parameters : Parameters := ∅

namespace Query

/-- A query for a target; its table is looked up once. -/
def new (target : Target) (dialect : Dialect) (mapping : Mapping) : Query :=
  { target, table := mapping.resolve? target, dialect, catalog := mapping.catalog,
    schema := mapping.schema }

variable (query : Query)

/-! ## Building -/

def add (condition : Expression) : Query :=
  { query with conditions := query.conditions ++ [condition] }

def addOrder (order : Order) : Query :=
  { query with orders := query.orders ++ [order] }

def setProjection (projection : Projection) : Query :=
  { query with projection := some projection }

def setParameterized (parameterized : Bool) : Query :=
  { query with parameterized }

def setWindow (window : Window) : Query :=
  { query with window }

/-! ## Statements -/

def renderer : Renderer :=
  { dialect := query.dialect, table := query.table, parameterized := query.parameterized }

/-- The select before its conditions. -/
def selectText (table : Table) : Rendering String :=
  match query.projection with
  | some projection => do
    let columns ← projection.render query.renderer
    return "SELECT " ++ columns ++ " FROM " ++
      table.qualifiedName query.dialect query.catalog query.schema
  | none => pure (table.selectAll query.dialect query.catalog query.schema)

/-- The conditions joined into a clause, if there are any. -/
def whereText : Rendering String :=
  if query.conditions.isEmpty then pure ""
  else do
    let conditions ← Expression.renderAll query.renderer query.conditions
    return " WHERE " ++ " AND ".intercalate conditions

/-- The grouping of a grouped projection. -/
def groupText : Rendering String :=
  match query.projection with
  | some projection =>
    if projection.isGrouped then do
      let groups ← projection.renderGroup query.renderer
      return " GROUP BY " ++ groups
    else pure ""
  | none => pure ""

/-- The select with conditions and grouping, without order and window. -/
def selectStatement : Rendering String :=
  match query.table with
  | none => throw (.unmappedEntity query.target.entity)
  | some table => do
    let select ← query.selectText table
    let conditions ← query.whereText
    let groups ← query.groupText
    return select ++ conditions ++ groups

def renderOrders : List Order → Rendering (List String)
  | [] => pure []
  | order :: rest => do
    let first ← order.render query.renderer
    let others ← renderOrders rest
    return first :: others

/-- The order clause, if there is an order. -/
def orderClause : Rendering (Option String) :=
  if query.orders.isEmpty then pure none
  else do
    let orders ← query.renderOrders query.orders
    return some ("ORDER BY " ++ ", ".intercalate orders)

/-- The whole statement. Without a limit there is no window. -/
def statement : Rendering String := do
  let select ← query.selectStatement
  let order ← query.orderClause
  return match query.window.limit with
    | some limit => query.dialect.page select order limit query.window.offset
    | none => Dialect.withOrder select order

/-- The statement that counts the rows of the select. -/
def countStatement : Rendering String := do
  let select ← query.selectStatement
  return "SELECT COUNT(*) FROM (" ++ select ++ ") t"

/-- Runs a rendering from fresh bindings and keeps those of a success. -/
def compile (rendering : Rendering String) : Except RenderError String × Query :=
  match rendering.run { marker := query.dialect.marker } with
  | (.ok sql, bindings) => (.ok sql, { query with parameters := bindings.values })
  | (.error cause, _) => (.error cause, query)

def toSql : Except RenderError String × Query :=
  query.compile query.statement

def toCountSql : Except RenderError String × Query :=
  query.compile query.countStatement

def toSelectSql : Except RenderError String × Query :=
  query.compile query.selectStatement

end Query

end SqlQuery
