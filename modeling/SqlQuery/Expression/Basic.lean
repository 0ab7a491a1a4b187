import SqlQuery.Value

/-! # Expressions

The conditions, values and references of a query, as a tree without any SQL formatting.
-/

namespace SqlQuery

/-- Where a LIKE pattern is anchored in the text it is matched with. -/
inductive MatchMode
  | exact
  | start
  | ending
  | anywhere
  deriving DecidableEq, Repr, Inhabited

/-- The pattern with the wildcards of its mode. -/
def MatchMode.pattern (mode : MatchMode) (pattern : String) : String :=
  match mode with
  | exact => pattern
  | start => pattern ++ "%"
  | ending => "%" ++ pattern
  | anywhere => "%" ++ pattern ++ "%"

inductive Connective
  | and
  | or
  deriving DecidableEq, Repr

def Connective.operator : Connective → String
  | and => "AND"
  | or => "OR"

inductive Expression
  | field (name : String)
  | value (value : Value)
  | plain (sql : String)
  | simple (left : Expression) (operator : String) (right : Expression)
  | logical (left : Expression) (operator : String) (right : Expression)
  | property (left operator right : String)
  | not (operand : Expression)
  | notNull (operand : Expression)
  | null (operand : Expression)
  | between (operand lower upper : Expression)
  | like (operand : Expression) (pattern : String) (mode : MatchMode) (escape : Option Char)
      (ignoreCase : Bool)
  | ilike (operand : Expression) (pattern : String) (mode : MatchMode) (escape : Option Char)
  | inValues (operand : Expression) (values : List Expression)
  | junction (connective : Connective) (members : List Expression)
  | function (name : String) (arguments : List Expression)

namespace Expression

instance : Inhabited Expression := ⟨plain ""⟩

/-- A junction takes the member in; any other expression is joined with it by a conjunction. -/
def andAlso (expression member : Expression) : Expression :=
  match expression with
  | junction connective members => junction connective (members ++ [member])
  | other => junction .and [other, member]

/-! ## Shorthands -/

/-- A field compared with a value. -/
def compare (name operator : String) (operand : Value) : Expression :=
  simple (field name) operator (value operand)

def eq (name : String) (operand : Value) : Expression := compare name "=" operand

def ne (name : String) (operand : Value) : Expression := compare name "<>" operand

def gt (name : String) (operand : Value) : Expression := compare name ">" operand

def ge (name : String) (operand : Value) : Expression := compare name ">=" operand

def lt (name : String) (operand : Value) : Expression := compare name "<" operand

def le (name : String) (operand : Value) : Expression := compare name "<=" operand

def eqProperty (left right : String) : Expression := property left "=" right

def neProperty (left right : String) : Expression := property left "<>" right

def ltProperty (left right : String) : Expression := property left "<" right

def gtProperty (left right : String) : Expression := property left ">" right

def all (members : List Expression) : Expression := junction .and members

def any (members : List Expression) : Expression := junction .or members

/-- A junction to take members in. -/
def conjunction : Expression := all []

def disjunction : Expression := any []

def isNull (name : String) : Expression := null (field name)

def isNotNull (name : String) : Expression := notNull (field name)

def fieldBetween (name : String) (lower upper : Value) : Expression :=
  between (field name) (value lower) (value upper)

def fieldLike (name pattern : String) (mode : MatchMode) : Expression :=
  like (field name) pattern mode none false

def fieldLikeIgnoreCase (name pattern : String) (mode : MatchMode) : Expression :=
  like (field name) pattern mode none true

def fieldIlike (name pattern : String) (mode : MatchMode) : Expression :=
  ilike (field name) pattern mode none

def fieldIn (name : String) (values : List Value) : Expression :=
  inValues (field name) (values.map value)

/-- Sets the escape character of a LIKE; other expressions have none. -/
def withEscape (expression : Expression) (escape : Char) : Expression :=
  match expression with
  | like operand pattern mode _ ignoreCase => like operand pattern mode (some escape) ignoreCase
  | ilike operand pattern mode _ => ilike operand pattern mode (some escape)
  | other => other

end Expression

/-- A sort term. -/
structure Order where
  expression : Expression
  ascending : Bool := true

namespace Order

def direction (order : Order) : String :=
  if order.ascending then "ASC" else "DESC"

def asc (name : String) : Order := ⟨.field name, true⟩

def desc (name : String) : Order := ⟨.field name, false⟩

end Order

end SqlQuery
