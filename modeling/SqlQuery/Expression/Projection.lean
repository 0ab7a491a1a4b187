import SqlQuery.Expression.Basic

/-! # Projections

What a query selects in place of the mapped columns. Lists nest; a grouped leaf is selected and
grouped by.
-/

namespace SqlQuery

inductive Projection
  | aggregate (function : String) (argument : Expression) (distinct : Bool) (label : Option String)
      (grouped : Bool)
  | rowCount (label : Option String)
  | property (field : String) (label : Option String) (grouped : Bool)
  | expression (expression : Expression) (label : Option String)
  | list (members : List Projection)

namespace Projection

instance : Inhabited Projection := ⟨rowCount none⟩

/-- An aggregate of a field, without alias and not grouped. -/
def ofField (function field : String) (distinct : Bool) : Projection :=
  aggregate function (.field field) distinct none false

def count (field : String) : Projection := ofField "count" field false

def countDistinct (field : String) : Projection := ofField "count" field true

def sum (field : String) : Projection := ofField "sum" field false

def average (field : String) : Projection := ofField "avg" field false

def minimum (field : String) : Projection := ofField "min" field false

def maximum (field : String) : Projection := ofField "max" field false

def ofProperty (field : String) : Projection := property field none false

/-- A field that is selected and grouped by. -/
def groupProperty (field : String) : Projection := property field none true

/-- Names the output column; a list has none of its own. -/
def withAlias (projection : Projection) (name : String) : Projection :=
  match projection with
  | aggregate function argument distinct _ grouped =>
    aggregate function argument distinct (some name) grouped
  | rowCount _ => rowCount (some name)
  | property field _ grouped => property field (some name) grouped
  | expression inner _ => expression inner (some name)
  | list members => list members

mutual

/-- Whether the projection contributes to the grouping. -/
def isGrouped : Projection → Bool
  | aggregate _ _ _ _ grouped => grouped
  | property _ _ grouped => grouped
  | rowCount _ => false
  | expression _ _ => false
  | list members => anyGrouped members

def anyGrouped : List Projection → Bool
  | [] => false
  | member :: rest => isGrouped member || anyGrouped rest

end

end Projection

end SqlQuery
