import SqlQuery.Proofs.Render.Template
import SqlQuery.Query.Basic

/-! # Drafts of trees and statements

Each tree has a draft that depends on the dialect and the table, but not on the mode. Pieces stand
in the order in which their values are bound. The arguments of a function that takes none are
dropped, and an aggregate looks its function up after its argument.
-/

namespace SqlQuery

namespace Draft

variable (dialect : Dialect) (table : Option Table)

/-- A mapped field by the name of its column, any other as it is. -/
def field (name : String) : Draft :=
  match table.bind (·.findColumn? name) with
  | some column => piece (.name column.name)
  | none => text name

def value (value : Value) : Draft :=
  piece (.hole value)

def pattern (pattern : String) (mode : MatchMode) : Draft :=
  value (.text (mode.pattern pattern))

def operation (left : Draft) (operator : String) (right : Draft) : Draft :=
  text "(" ++ left ++ text (" " ++ operator ++ " ") ++ right ++ text ")"

def lowered (operand : Draft) : Draft :=
  text (dialect.lowerFunction ++ "(") ++ operand ++ text ")"

def escaped (comparison : Draft) : Option Char → Draft
  | none => comparison
  | some c => comparison ++ text " escape " ++ piece (.quoted (String.singleton c))

def aliased (selected : Draft) : Option String → Draft
  | none => selected
  | some label => if label.isEmpty then selected else selected ++ text " AS " ++ piece (.name label)

/-- A call with its arguments. -/
def call (function : SqlFunction) (arguments : List Draft) : Draft :=
  match function with
  | .call name => text (name ++ "(") ++ join ", " arguments ++ text ")"
  | .constant sql => (join "" arguments).dropped ++ text sql
  | .enclosing opening separator closing =>
    text opening ++ join separator arguments ++ text closing

/-- The call of a function that is looked up before its arguments. -/
def lookupFirst (name : String) (arguments : List Draft) : Draft :=
  match dialect.functions.find? name with
  | some function => call function arguments
  | none => failed (.functionNotFound name dialect.name)

/-- The call of a function that is looked up after its arguments. -/
def lookupLast (name : String) (arguments : List Draft) : Draft :=
  match dialect.functions.find? name with
  | some function => call function arguments
  | none => join "" arguments ++ failed (.functionNotFound name dialect.name)

end Draft

open Draft (text)

mutual

def Expression.draft (dialect : Dialect) (table : Option Table) : Expression → Draft
  | .field name => .field table name
  | .value operand => .value operand
  | .plain sql => text sql
  | .simple left operator right =>
    .operation (left.draft dialect table) operator (right.draft dialect table)
  | .logical left operator right =>
    .operation (left.draft dialect table) operator (right.draft dialect table)
  | .property left operator right =>
    .operation (.field table left) operator (.field table right)
  | .not operand =>
    if dialect.parenthesizesNot then text "not (" ++ operand.draft dialect table ++ text ")"
    else text "not " ++ operand.draft dialect table
  | .notNull operand => operand.draft dialect table ++ text " is not null"
  | .null operand => operand.draft dialect table ++ text " is null"
  | .between operand lower upper =>
    operand.draft dialect table ++ text " between " ++ lower.draft dialect table ++
      text " and " ++ upper.draft dialect table
  | .like operand pattern mode escape ignoreCase =>
    let subject :=
      if ignoreCase then .lowered dialect (operand.draft dialect table)
      else operand.draft dialect table
    .escaped (subject ++ text " like " ++ .pattern pattern mode) escape
  | .ilike operand pattern mode escape =>
    let subject :=
      if dialect.nativeIlike then operand.draft dialect table ++ text " ilike "
      else .lowered dialect (operand.draft dialect table) ++ text " like "
    .escaped (subject ++ .pattern pattern mode) escape
  | .inValues operand values =>
    if values.isEmpty then text "1=0"
    else operand.draft dialect table ++ text " in (" ++
      .join ", " (draftAll dialect table values) ++ text ")"
  | .junction connective members =>
    if members.isEmpty then text "1=1"
    else text "(" ++ .join (" " ++ connective.operator ++ " ") (draftAll dialect table members) ++
      text ")"
  | .function name arguments => .lookupFirst dialect name (draftAll dialect table arguments)

def Expression.draftAll (dialect : Dialect) (table : Option Table) : List Expression → List Draft
  | [] => []
  | expression :: rest => expression.draft dialect table :: draftAll dialect table rest

end

theorem Expression.draftAll_eq_map (dialect : Dialect) (table : Option Table)
    (expressions : List Expression) :
    draftAll dialect table expressions = expressions.map (·.draft dialect table) := by
  induction expressions with
  | nil => rfl
  | cons head rest ih => rw [draftAll, ih, List.map_cons]

def Order.draft (dialect : Dialect) (table : Option Table) (order : Order) : Draft :=
  order.expression.draft dialect table ++ text (" " ++ order.direction)

namespace Projection

variable (dialect : Dialect) (table : Option Table)

/-- The argument of an aggregate as it stands in the call. -/
def draftArgument (argument : Expression) (distinct : Bool) : Draft :=
  if distinct then text "distinct " ++ argument.draft dialect table
  else argument.draft dialect table

mutual

def draft : Projection → Draft
  | aggregate function argument distinct label _ =>
    .aliased (.lookupLast dialect function [draftArgument dialect table argument distinct]) label
  | rowCount label => .aliased (.lookupLast dialect "count" [text "*"]) label
  | property field label _ => .aliased (.field table field) label
  | expression inner label => .aliased (inner.draft dialect table) label
  | list members => .join ", " (draftAll members)

def draftAll : List Projection → List Draft
  | [] => []
  | projection :: rest => draft projection :: draftAll rest

end

mutual

/-- The grouping, without aliases. -/
def draftGroup : Projection → Draft
  | aggregate function argument distinct _ grouped =>
    if grouped then .lookupLast dialect function [draftArgument dialect table argument distinct]
    else .blank
  | property field _ grouped => if grouped then .field table field else .blank
  | rowCount _ => .blank
  | expression _ _ => .blank
  | list members => .join ", " (draftGroups members)

/-- The groupings of the grouped members. -/
def draftGroups : List Projection → List Draft
  | [] => []
  | projection :: rest =>
    if projection.isGrouped then draftGroup projection :: draftGroups rest else draftGroups rest

end

theorem draftAll_eq_map (projections : List Projection) :
    draftAll dialect table projections = projections.map (draft dialect table) := by
  induction projections with
  | nil => rfl
  | cons head rest ih => rw [draftAll, ih, List.map_cons]

theorem draftGroups_eq_map (projections : List Projection) :
    draftGroups dialect table projections =
      (projections.filter isGrouped).map (draftGroup dialect table) := by
  induction projections with
  | nil => rfl
  | cons head rest ih =>
    rw [draftGroups, ih, List.filter_cons]
    split <;> rfl

end Projection

def Column.draft (column : Column) : Draft :=
  if column.field = column.name then .piece (.name column.name)
  else .piece (.name column.name) ++ text " AS " ++ .piece (.name column.field)

namespace Table

variable (table : Table) (catalog schema : Option String)

def draftName : Draft :=
  let parts := catalog.toList ++ schema.toList ++ [table.name]
  .join "." ((parts.filter fun part => !part.isEmpty).map fun part => .piece (.name part))

def draftAll : Draft :=
  let columns := if table.columns.isEmpty then text "*" else .join ", " (table.columns.map (·.draft))
  text "SELECT " ++ columns ++ text " FROM " ++ table.draftName catalog schema

end Table

namespace Dialect

variable (dialect : Dialect)

/-- The order of a window; one that is fetched by offset has an order in any case. -/
def windowOrder (order : Option Draft) : Option Draft :=
  match dialect.paging, order with
  | .offsetFetch, none => some (text "ORDER BY (SELECT NULL)")
  | _, order => order

/-- What follows the order of a window. -/
def windowText (limit offset : UInt64) : String :=
  match dialect.paging with
  | .limitOffset =>
    if 0 < offset then
      " LIMIT " ++ toString limit.toNat ++ " OFFSET " ++ toString offset.toNat
    else " LIMIT " ++ toString limit.toNat
  | .limitPair =>
    if 0 < offset then " LIMIT " ++ toString offset.toNat ++ ", " ++ toString limit.toNat
    else " LIMIT " ++ toString limit.toNat
  | .offsetFetch =>
    " OFFSET " ++ toString offset.toNat ++ " ROWS FETCH NEXT " ++ toString limit.toNat ++
      " ROWS ONLY"

end Dialect

/-- The statements that a query has. -/
inductive StatementKind
  | full
  | count
  | select
  deriving DecidableEq, Repr

namespace Query

variable (query : Query)

/-- Renders one of the statements. -/
def render : StatementKind → Except RenderError String × Query
  | .full => query.toSql
  | .count => query.toCountSql
  | .select => query.toSelectSql

/-- How one of the statements is rendered. -/
def rendering : StatementKind → Rendering String
  | .full => query.statement
  | .count => query.countStatement
  | .select => query.selectStatement

/-- A statement is rendered from fresh bindings, and those of a success are kept. -/
theorem render_eq_compile (kind : StatementKind) :
    query.render kind = query.compile (query.rendering kind) := by
  cases kind <;> rfl

def draftColumns (table : Table) : Draft :=
  match query.projection with
  | some projection =>
    text "SELECT " ++ projection.draft query.dialect query.table ++ text " FROM " ++
      table.draftName query.catalog query.schema
  | none => table.draftAll query.catalog query.schema

def draftWhere : Draft :=
  if query.conditions.isEmpty then .blank
  else text " WHERE " ++
    .join " AND " (Expression.draftAll query.dialect query.table query.conditions)

def draftGrouping : Draft :=
  match query.projection with
  | some projection =>
    if projection.isGrouped then
      text " GROUP BY " ++ projection.draftGroup query.dialect query.table
    else .blank
  | none => .blank

def draftSelect : Draft :=
  match query.table with
  | none => .failed (.unmappedEntity query.target.entity)
  | some table => query.draftColumns table ++ query.draftWhere ++ query.draftGrouping

def draftOrder : Option Draft :=
  if query.orders.isEmpty then none
  else some (text "ORDER BY " ++
    .join ", " (query.orders.map fun order => order.draft query.dialect query.table))

theorem orders_eq_nil_of_draftOrder (unordered : query.draftOrder = none) : query.orders = [] := by
  rw [draftOrder] at unordered
  split at unordered
  · exact List.isEmpty_iff.mp ‹_›
  · contradiction

/-- A select with its order, if it has one. -/
def draftOrdered (select : Draft) : Option Draft → Draft
  | none => select
  | some order => select ++ text " " ++ order

/-- The draft of one of the statements. -/
def draft : StatementKind → Draft
  | .full =>
    match query.window.limit with
    | some limit =>
      draftOrdered query.draftSelect (query.dialect.windowOrder query.draftOrder) ++
        text (query.dialect.windowText limit query.window.offset)
    | none => draftOrdered query.draftSelect query.draftOrder
  | .count => text "SELECT COUNT(*) FROM (" ++ query.draftSelect ++ text ") t"
  | .select => query.draftSelect

end Query

end SqlQuery
