import SqlQuery.Database.Settings
import SqlQuery.Mapping

/-! # Configurations

A configuration names the dialect, maps entities to tables and may name a database.
-/

namespace SqlQuery

/-- A mapped column: a field with a column of the same name, or of another name. -/
inductive ColumnEntry
  | same (field : String)
  | mapped (field column : String)
  deriving DecidableEq, Repr

namespace ColumnEntry

def toColumn : ColumnEntry → Column
  | same field => ⟨field, field⟩
  | mapped field column => ⟨field, column⟩

def toJson : ColumnEntry → Json
  | same field => .string field
  | mapped field column => .object [("field", .string field), ("column", .string column)]

/-- An entry is a string or an object; the array form of a record is not accepted. It is taken in
whole before it is known which, so no part of it may be unreadable. -/
def ofJson? (json : Json) : Option ColumnEntry :=
  if json.isReadable then
    match json with
    | .string field => some (same field)
    | .object members => do
      let fields := Json.Record.named members
      let field ← fields.required 0 "field" Json.string?
      let column ← fields.required 1 "column" Json.string?
      return mapped field column
    | _ => none
  else none

end ColumnEntry

structure TableEntry where
  table : String
  columns : List ColumnEntry := []
  deriving DecidableEq, Repr

namespace TableEntry

def toTable (entry : TableEntry) : Table :=
  ⟨entry.table, entry.columns.map ColumnEntry.toColumn⟩

def toJson (entry : TableEntry) : Json :=
  .object
    [("table", .string entry.table), ("columns", .array (entry.columns.map ColumnEntry.toJson))]

def ofJson? (json : Json) : Option TableEntry := do
  let fields ← json.record?
  let table ← fields.required 0 "table" Json.string?
  let columns ← fields.optional 1 "columns" [] (Json.list? ColumnEntry.ofJson?)
  if fields.fits 2 then return ⟨table, columns⟩ else failure

end TableEntry

/-! ## Mapped tables as JSON -/

namespace Column

def toJson (column : Column) : Json :=
  .object [("field", .string column.field), ("name", .string column.name)]

def ofJson? (json : Json) : Option Column := do
  let fields ← json.record?
  let field ← fields.required 0 "field" Json.string?
  let name ← fields.required 1 "name" Json.string?
  if fields.fits 2 then return ⟨field, name⟩ else failure

end Column

namespace Table

def toJson (table : Table) : Json :=
  .object [("name", .string table.name), ("columns", .array (table.columns.map Column.toJson))]

def ofJson? (json : Json) : Option Table := do
  let fields ← json.record?
  let name ← fields.required 0 "name" Json.string?
  let columns ← fields.optional 1 "columns" [] (Json.list? Column.ofJson?)
  if fields.fits 2 then return ⟨name, columns⟩ else failure

end Table

def DialectKind.ofJson? (json : Json) : Option DialectKind :=
  (json.choice? false).bind ofName?

structure Configuration where
  dialect : DialectKind := .generic
  catalog : Option String := none
  schema : Option String := none
  parameterized : Bool := true
  tables : Dictionary TableEntry := ∅
  database : Option PostgresSettings := none

namespace Configuration

def mapping (configuration : Configuration) : Mapping :=
  { catalog := configuration.catalog
    schema := configuration.schema
    tables := Dictionary.ofList
      (configuration.tables.entries.map fun entry => (entry.1, entry.2.toTable)) }

def toJson (configuration : Configuration) : Json :=
  .object
    [("dialect", .string configuration.dialect.name),
      ("catalog", .ofOption .string configuration.catalog),
      ("schema", .ofOption .string configuration.schema),
      ("parameterized", .bool configuration.parameterized),
      ("tables", .object
        (configuration.tables.entries.map fun entry => (entry.1, entry.2.toJson))),
      ("database", .ofOption PostgresSettings.toJson configuration.database)]

def ofJson? (json : Json) : Option Configuration := do
  let fields ← json.record?
  let text (index : Nat) (name : String) :=
    fields.optional index name none (Json.nullable Json.string?)
  let dialect ← fields.optional 0 "dialect" .generic DialectKind.ofJson?
  let catalog ← text 1 "catalog"
  let schema ← text 2 "schema"
  let parameterized ← fields.optional 3 "parameterized" true Json.bool?
  let tables ← fields.optional 4 "tables" ∅ (Json.dictionary? TableEntry.ofJson?)
  let database ← fields.optional 5 "database" none (Json.nullable PostgresSettings.ofJson?)
  if fields.fits 6 then
    return { dialect, catalog, schema, parameterized, tables, database }
  else failure

end Configuration

end SqlQuery
