import SqlQuery.Bindings
import SqlQuery.Error
import SqlQuery.Mapping
import SqlQuery.Expression.Projection

/-! # Rendering

A rendering gives a text or the cause why there is none, and in either case the bindings made on the
way. Values are bound in parameterized mode and inlined as literals otherwise.
-/

namespace SqlQuery

/-- A computation that makes bindings and may fail; a failure keeps the bindings made before it. -/
abbrev Rendering (α : Type) := ExceptT RenderError (StateM Bindings) α

/-- What a rendering depends on. -/
structure Renderer where
  dialect : Dialect
  table : Option Table := none
  parameterized : Bool := true

namespace Renderer

variable (renderer : Renderer)

/-- Binds a value. -/
def bind (value : Value) : Rendering String :=
  fun bindings =>
    let (placeholder, bindings) := bindings.bind value
    (.ok placeholder, bindings)

/-- A value as SQL text; a number that is not finite has none. -/
def literal (value : Value) : Except RenderError String :=
  match value with
  | .null => .ok "NULL"
  | .bool value => .ok (renderer.dialect.booleanLiteral value)
  | .int value => .ok (toString value.toInt)
  | .float value =>
    if value.isFinite then .ok (value.finiteText .plain)
    else .error (.invalidLiteral value.toText)
  | .text value => .ok (renderer.dialect.quoteLiteral value)

def value (value : Value) : Rendering String :=
  if renderer.parameterized then bind value
  else MonadExcept.ofExcept (renderer.literal value)

/-- The pattern of a LIKE with the wildcards of its mode. -/
def pattern (text : String) (mode : MatchMode) : Rendering String :=
  renderer.value (.text (mode.pattern text))

/-- A mapped field as its quoted column, any other as it is. -/
def field (name : String) : String :=
  match renderer.table.bind (·.findColumn? name) with
  | some column => column.quotedName renderer.dialect
  | none => name

def function (name : String) : Except RenderError SqlFunction :=
  match renderer.dialect.functions.find? name with
  | some function => .ok function
  | none => .error (.functionNotFound name renderer.dialect.name)

def lowered (sql : String) : String :=
  renderer.dialect.lowerFunction ++ "(" ++ sql ++ ")"

/-- Appends the escape character of a LIKE, if it has one. -/
def escaped (sql : String) : Option Char → String
  | none => sql
  | some c => sql ++ " escape " ++ renderer.dialect.quoteLiteral (String.singleton c)

/-- Appends an alias unless it is empty. -/
def aliased (sql : String) : Option String → String
  | none => sql
  | some name => if name.isEmpty then sql else sql ++ " AS " ++ renderer.dialect.quote name

end Renderer

end SqlQuery
