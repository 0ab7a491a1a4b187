import SqlQuery.Expression.Projection

/-! # The JSON form of queries' trees

Expressions, projections and orders are tagged records. Writing gives every field in the declared
order; reading accepts what is left out with a default.
-/

namespace SqlQuery

/-! ## Choices -/

def MatchMode.name : MatchMode → String
  | exact => "exact"
  | start => "start"
  | ending => "end"
  | anywhere => "anywhere"

def MatchMode.ofName? : String → Option MatchMode
  | "exact" => some exact
  | "start" => some start
  | "end" => some ending
  | "anywhere" => some anywhere
  | _ => none

def MatchMode.ofJson? (json : Json) : Option MatchMode :=
  (json.choice? true).bind ofName?

def Connective.name : Connective → String
  | and => "and"
  | or => "or"

def Connective.ofName? : String → Option Connective
  | "and" => some and
  | "or" => some or
  | _ => none

def Connective.ofJson? (json : Json) : Option Connective :=
  (json.choice? true).bind ofName?

def Json.ofOption {α : Type} (encode : α → Json) : Option α → Json
  | none => .null
  | some value => encode value

/-- A tagged record. -/
def Json.tagged (kind : String) (fields : List (String × Json)) : Json :=
  .object (("kind", .string kind) :: fields)

def Json.ofCharacter (c : Char) : Json :=
  .string (String.singleton c)

namespace Expression

/-! ## Expressions -/

/-- The kinds of expressions in their order. -/
def kinds : List String :=
  ["field", "value", "plain", "simple", "logical", "property", "not", "not_null", "null", "between",
    "like", "ilike", "in", "junction", "function"]

mutual

def toJson : Expression → Json
  | field name => .tagged "field" [("name", .string name)]
  | value operand => .tagged "value" [("value", operand.toJson)]
  | plain sql => .tagged "plain" [("sql", .string sql)]
  | simple left operator right =>
    .tagged "simple" [("left", toJson left), ("op", .string operator), ("right", toJson right)]
  | logical left operator right =>
    .tagged "logical" [("left", toJson left), ("op", .string operator), ("right", toJson right)]
  | property left operator right =>
    .tagged "property" [("left", .string left), ("op", .string operator), ("right", .string right)]
  | not operand => .tagged "not" [("expression", toJson operand)]
  | notNull operand => .tagged "not_null" [("expression", toJson operand)]
  | null operand => .tagged "null" [("expression", toJson operand)]
  | between operand lower upper =>
    .tagged "between"
      [("expression", toJson operand), ("lower", toJson lower), ("upper", toJson upper)]
  | like operand pattern mode escape ignoreCase =>
    .tagged "like"
      [("expression", toJson operand), ("value", .string pattern),
        ("match_mode", .string mode.name), ("escape", .ofOption .ofCharacter escape),
        ("ignore_case", .bool ignoreCase)]
  | ilike operand pattern mode escape =>
    .tagged "ilike"
      [("expression", toJson operand), ("value", .string pattern),
        ("match_mode", .string mode.name), ("escape", .ofOption .ofCharacter escape)]
  | inValues operand values =>
    .tagged "in" [("expression", toJson operand), ("values", .array (toJsonList values))]
  | junction connective members =>
    .tagged "junction"
      [("junction", .string connective.name), ("members", .array (toJsonList members))]
  | function name arguments =>
    .tagged "function" [("name", .string name), ("args", .array (toJsonList arguments))]

def toJsonList : List Expression → List Json
  | [] => []
  | expression :: rest => toJson expression :: toJsonList rest

end

/-- Reads the fields of an expression of a kind. -/
def ofFields? (kind : String) (fields : Json.Record (Json.Node Expression)) : Option Expression :=
  let text (index : Nat) (name : String) := fields.required index name (·.json.string?)
  let part (index : Nat) (name : String) := fields.required index name (·.single)
  let mode := fields.optional 2 "match_mode" .exact (MatchMode.ofJson? ·.json)
  let escape := fields.optional 3 "escape" none (fun node => node.json.nullable Json.character?)
  match kind with
  | "field" => do
    let name ← text 0 "name"
    if fields.fits 1 then return field name else failure
  | "value" => do
    let operand ← fields.required 0 "value" (Value.ofJson? ·.json)
    if fields.fits 1 then return value operand else failure
  | "plain" => do
    let sql ← text 0 "sql"
    if fields.fits 1 then return plain sql else failure
  | "simple" => do
    let left ← part 0 "left"
    let operator ← text 1 "op"
    let right ← part 2 "right"
    if fields.fits 3 then return simple left operator right else failure
  | "logical" => do
    let left ← part 0 "left"
    let operator ← text 1 "op"
    let right ← part 2 "right"
    if fields.fits 3 then return logical left operator right else failure
  | "property" => do
    let left ← text 0 "left"
    let operator ← text 1 "op"
    let right ← text 2 "right"
    if fields.fits 3 then return property left operator right else failure
  | "not" => do
    let operand ← part 0 "expression"
    if fields.fits 1 then return not operand else failure
  | "not_null" => do
    let operand ← part 0 "expression"
    if fields.fits 1 then return notNull operand else failure
  | "null" => do
    let operand ← part 0 "expression"
    if fields.fits 1 then return null operand else failure
  | "between" => do
    let operand ← part 0 "expression"
    let lower ← part 1 "lower"
    let upper ← part 2 "upper"
    if fields.fits 3 then return between operand lower upper else failure
  | "like" => do
    let operand ← part 0 "expression"
    let pattern ← text 1 "value"
    let mode ← mode
    let escape ← escape
    let ignoreCase ← fields.optional 4 "ignore_case" false (·.json.bool?)
    if fields.fits 5 then return like operand pattern mode escape ignoreCase else failure
  | "ilike" => do
    let operand ← part 0 "expression"
    let pattern ← text 1 "value"
    let mode ← mode
    let escape ← escape
    if fields.fits 4 then return ilike operand pattern mode escape else failure
  | "in" => do
    let operand ← part 0 "expression"
    let values ← fields.required 1 "values" (·.list)
    if fields.fits 2 then return inValues operand values else failure
  | "junction" => do
    let connective ← fields.required 0 "junction" (Connective.ofJson? ·.json)
    let members ← fields.optional 1 "members" [] (·.list)
    if fields.fits 2 then return junction connective members else failure
  | "function" => do
    let name ← text 0 "name"
    let arguments ← fields.optional 1 "args" [] (·.list)
    if fields.fits 2 then return function name arguments else failure
  | _ => none

/-- Reads an expression whose kind is given in JSON. -/
def assemble? (inTagged : Bool) (kind : Json) (fields : Json.Record (Json.Node Expression)) :
    Option Expression :=
  (kind.kind? kinds inTagged).bind fun kind => ofFields? kind fields

/-- Reads an expression that stands alone or in a list. -/
def ofJson? (json : Json) : Option Expression :=
  json.tree? assemble?

/-- Reads an expression that is a field of a tagged record. -/
def ofField? (json : Json) : Option Expression :=
  (json.node (assemble? true)).single

end Expression

namespace Projection

/-! ## Projections -/

def kinds : List String := ["aggregate", "row_count", "property", "expression", "list"]

mutual

def toJson : Projection → Json
  | aggregate function argument distinct label grouped =>
    .tagged "aggregate"
      [("function", .string function), ("argument", argument.toJson), ("distinct", .bool distinct),
        ("alias", .ofOption .string label), ("grouped", .bool grouped)]
  | rowCount label => .tagged "row_count" [("alias", .ofOption .string label)]
  | property field label grouped =>
    .tagged "property"
      [("field", .string field), ("alias", .ofOption .string label), ("grouped", .bool grouped)]
  | expression inner label =>
    .tagged "expression" [("expression", inner.toJson), ("alias", .ofOption .string label)]
  | list members => .tagged "list" [("projections", .array (toJsonList members))]

def toJsonList : List Projection → List Json
  | [] => []
  | projection :: rest => toJson projection :: toJsonList rest

end

/-- Reads the fields of a projection of a kind. -/
def ofFields? (kind : String) (fields : Json.Record (Json.Node Projection)) : Option Projection :=
  let text (index : Nat) (name : String) := fields.required index name (·.json.string?)
  let part (index : Nat) (name : String) :=
    fields.required index name (Expression.ofField? ·.json)
  let flag (index : Nat) (name : String) := fields.optional index name false (·.json.bool?)
  let label (index : Nat) :=
    fields.optional index "alias" none (fun node => node.json.nullable Json.string?)
  match kind with
  | "aggregate" => do
    let function ← text 0 "function"
    let argument ← part 1 "argument"
    let distinct ← flag 2 "distinct"
    let label ← label 3
    let grouped ← flag 4 "grouped"
    if fields.fits 5 then return aggregate function argument distinct label grouped else failure
  | "row_count" => do
    let label ← label 0
    if fields.fits 1 then return rowCount label else failure
  | "property" => do
    let field ← text 0 "field"
    let label ← label 1
    let grouped ← flag 2 "grouped"
    if fields.fits 3 then return property field label grouped else failure
  | "expression" => do
    let inner ← part 0 "expression"
    let label ← label 1
    if fields.fits 2 then return expression inner label else failure
  | "list" => do
    let members ← fields.required 0 "projections" (·.list)
    if fields.fits 1 then return list members else failure
  | _ => none

def assemble? (inTagged : Bool) (kind : Json) (fields : Json.Record (Json.Node Projection)) :
    Option Projection :=
  (kind.kind? kinds inTagged).bind fun kind => ofFields? kind fields

/-- Reads a projection that stands alone or in an untagged record. -/
def ofJson? (json : Json) : Option Projection :=
  json.tree? assemble?

end Projection

namespace Order

/-! ## Orders -/

def toJson (order : Order) : Json :=
  .object [("expression", order.expression.toJson), ("ascending", .bool order.ascending)]

def ofJson? (json : Json) : Option Order := do
  let fields ← json.record?
  let expression ← fields.required 0 "expression" Expression.ofJson?
  let ascending ← fields.optional 1 "ascending" true Json.bool?
  if fields.fits 2 then return ⟨expression, ascending⟩ else failure

end Order

end SqlQuery
