import SqlQuery.Dialect.Basic

/-! # Mappings

A mapping gives each entity its table, and each table the columns behind the fields that queries
name.
-/

namespace SqlQuery

/-- A field and the column that stores it. -/
structure Column where
  field : String
  name : String
  deriving DecidableEq, Repr

namespace Column

def quotedName (column : Column) (dialect : Dialect) : String :=
  dialect.quote column.name

/-- The column in a select list, named after its field. -/
def selectItem (column : Column) (dialect : Dialect) : String :=
  if column.field = column.name then column.quotedName dialect
  else column.quotedName dialect ++ " AS " ++ dialect.quote column.field

end Column

structure Table where
  name : String
  columns : List Column := []
  deriving DecidableEq, Repr

namespace Table

/-- The first column of a field. -/
def findColumn? (table : Table) (field : String) : Option Column :=
  table.columns.find? fun column => column.field = field

/-- The name after catalog and schema; empty parts are left out. -/
def qualifiedName (table : Table) (dialect : Dialect) (catalog schema : Option String) : String :=
  let parts := catalog.toList ++ schema.toList ++ [table.name]
  ".".intercalate ((parts.filter fun part => !part.isEmpty).map dialect.quote)

/-- Selects the mapped columns, or all columns when none is mapped. -/
def selectAll (table : Table) (dialect : Dialect) (catalog schema : Option String) : String :=
  let columns :=
    if table.columns.isEmpty then "*"
    else ", ".intercalate (table.columns.map fun column => column.selectItem dialect)
  "SELECT " ++ columns ++ " FROM " ++ table.qualifiedName dialect catalog schema

end Table

/-- What a query asks for: an entity by name, or the entity of a row type. -/
inductive Target
  | named (entity : String)
  | typed (entity : String)
  deriving DecidableEq, Repr

def Target.entity : Target → String
  | named entity => entity
  | typed entity => entity

structure Mapping where
  catalog : Option String := none
  schema : Option String := none
  tables : Dictionary Table := ∅

def Mapping.resolve? (mapping : Mapping) (target : Target) : Option Table :=
  mapping.tables.find? target.entity

end SqlQuery
