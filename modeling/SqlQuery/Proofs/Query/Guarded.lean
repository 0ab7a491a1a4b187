import SqlQuery.Query.Basic

/-! # Guarded trees

A guarded tree holds no SQL of its own: no plain text, no field that is not mapped, and no operator
outside a given class. Names, aliases, escape characters and values are free.
-/

namespace SqlQuery

/-- Whether a field has a column. -/
def IsMapped (table : Option Table) (name : String) : Prop :=
  (table.bind (·.findColumn? name)).isSome

inductive Expression.Guarded (table : Option Table) (operators : String → Prop) : Expression → Prop
  | field {name : String} (mapped : IsMapped table name) : Guarded table operators (.field name)
  | value (bound : Value) : Guarded table operators (.value bound)
  | simple {left right : Expression} {operator : String} (allowed : operators operator)
    (lefts : Guarded table operators left) (rights : Guarded table operators right) :
    Guarded table operators (.simple left operator right)
  | logical {left right : Expression} {operator : String} (allowed : operators operator)
    (lefts : Guarded table operators left) (rights : Guarded table operators right) :
    Guarded table operators (.logical left operator right)
  | property {left operator right : String} (allowed : operators operator)
    (mapped : IsMapped table left) (mapped' : IsMapped table right) :
    Guarded table operators (.property left operator right)
  | not {operand : Expression} (operands : Guarded table operators operand) :
    Guarded table operators (.not operand)
  | notNull {operand : Expression} (operands : Guarded table operators operand) :
    Guarded table operators (.notNull operand)
  | null {operand : Expression} (operands : Guarded table operators operand) :
    Guarded table operators (.null operand)
  | between {operand lower upper : Expression} (operands : Guarded table operators operand)
    (lowers : Guarded table operators lower) (uppers : Guarded table operators upper) :
    Guarded table operators (.between operand lower upper)
  | like {operand : Expression} (pattern : String) (mode : MatchMode) (escape : Option Char)
    (ignoreCase : Bool) (operands : Guarded table operators operand) :
    Guarded table operators (.like operand pattern mode escape ignoreCase)
  | ilike {operand : Expression} (pattern : String) (mode : MatchMode) (escape : Option Char)
    (operands : Guarded table operators operand) :
    Guarded table operators (.ilike operand pattern mode escape)
  | inValues {operand : Expression} {values : List Expression}
    (operands : Guarded table operators operand)
    (members : ∀ member ∈ values, Guarded table operators member) :
    Guarded table operators (.inValues operand values)
  | junction {members : List Expression} (connective : Connective)
    (each : ∀ member ∈ members, Guarded table operators member) :
    Guarded table operators (.junction connective members)
  | function {arguments : List Expression} (name : String)
    (each : ∀ argument ∈ arguments, Guarded table operators argument) :
    Guarded table operators (.function name arguments)

inductive Projection.Guarded (table : Option Table) (operators : String → Prop) : Projection → Prop
  | aggregate {argument : Expression} (function : String) (distinct : Bool) (label : Option String)
    (grouped : Bool) (arguments : argument.Guarded table operators) :
    Guarded table operators (.aggregate function argument distinct label grouped)
  | rowCount (label : Option String) : Guarded table operators (.rowCount label)
  | property {field : String} (label : Option String) (grouped : Bool)
    (mapped : IsMapped table field) : Guarded table operators (.property field label grouped)
  | expression {inner : Expression} (label : Option String)
    (inners : inner.Guarded table operators) : Guarded table operators (.expression inner label)
  | list {members : List Projection} (each : ∀ member ∈ members, Guarded table operators member) :
    Guarded table operators (.list members)

/-- A query for a mapped table whose trees are guarded. -/
structure Query.Guarded (operators : String → Prop) (query : Query) : Prop where
  table : query.table.isSome
  conditions : ∀ condition ∈ query.conditions, condition.Guarded query.table operators
  projection : ∀ projection ∈ query.projection, projection.Guarded query.table operators
  orders : ∀ order ∈ query.orders, order.expression.Guarded query.table operators

/-! ## A query -/

/-- People of an age whose names match a pattern; some of the names have quotation marks, and one
looks like a placeholder. -/
def Query.people (kind : DialectKind) (age : Value) (pattern : String) : Query where
  target := .named "Person"
  table := some
    { name := "people", columns := [⟨"age", "age"⟩, ⟨"name", "full\"name"⟩, ⟨"seen", ":p_0"⟩] }
  dialect := kind.dialect
  catalog := none
  schema := some "it's"
  conditions := [
    .simple (.field "age") ">" (.value age),
    .like (.field "name") pattern .anywhere (some '\\') true,
    .simple (.field "seen") "<" (.function "now" [.value age])]
  orders := [{ expression := .field "name" }]
  window := { limit := some 10, offset := 5 }

theorem Query.people_guarded {operators : String → Prop} (greater : operators ">")
    (less : operators "<") (kind : DialectKind) (age : Value) (pattern : String) :
    (people kind age pattern).Guarded operators where
  table := rfl
  conditions := by
    simp only [people, List.forall_mem_cons]
    exact ⟨.simple greater (.field rfl) (.value age), .like pattern _ _ _ (.field rfl),
      .simple less (.field rfl) (.function "now" (by simpa using .value age)), by simp⟩
  projection := by simp [people]
  orders := by
    simp only [people, List.forall_mem_singleton]
    exact .field rfl

end SqlQuery
