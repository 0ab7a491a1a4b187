import SqlQuery.Render.Basic

/-! # Rendering trees

Parts are rendered from left to right. A function is looked up before its arguments are rendered, an
aggregate after its argument; the operand of an empty list of values is not rendered at all.
-/

namespace SqlQuery

/-- Two operands around an operator, in parentheses. -/
def operation (left operator right : String) : String :=
  "(" ++ left ++ " " ++ operator ++ " " ++ right ++ ")"

mutual

def Expression.render (renderer : Renderer) : Expression → Rendering String
  | .field name => pure (renderer.field name)
  | .value operand => renderer.value operand
  | .plain sql => pure sql
  | .simple left operator right => do
    let left ← left.render renderer
    let right ← right.render renderer
    return operation left operator right
  | .logical left operator right => do
    let left ← left.render renderer
    let right ← right.render renderer
    return operation left operator right
  | .property left operator right =>
    pure (operation (renderer.field left) operator (renderer.field right))
  | .not operand => do
    let operand ← operand.render renderer
    return if renderer.dialect.parenthesizesNot then "not (" ++ operand ++ ")"
      else "not " ++ operand
  | .notNull operand => do
    let operand ← operand.render renderer
    return operand ++ " is not null"
  | .null operand => do
    let operand ← operand.render renderer
    return operand ++ " is null"
  | .between operand lower upper => do
    let operand ← operand.render renderer
    let lower ← lower.render renderer
    let upper ← upper.render renderer
    return operand ++ " between " ++ lower ++ " and " ++ upper
  | .like operand pattern mode escape ignoreCase => do
    let operand ← operand.render renderer
    let pattern ← renderer.pattern pattern mode
    let subject := if ignoreCase then renderer.lowered operand else operand
    return renderer.escaped (subject ++ " like " ++ pattern) escape
  | .ilike operand pattern mode escape => do
    let operand ← operand.render renderer
    let pattern ← renderer.pattern pattern mode
    let comparison :=
      if renderer.dialect.nativeIlike then operand ++ " ilike " ++ pattern
      else renderer.lowered operand ++ " like " ++ pattern
    return renderer.escaped comparison escape
  | .inValues operand values =>
    if values.isEmpty then pure "1=0"
    else do
      let operand ← operand.render renderer
      let values ← renderAll renderer values
      return operand ++ " in (" ++ ", ".intercalate values ++ ")"
  | .junction connective members =>
    if members.isEmpty then pure "1=1"
    else do
      let members ← renderAll renderer members
      return "(" ++ (" " ++ connective.operator ++ " ").intercalate members ++ ")"
  | .function name arguments => do
    let function ← MonadExcept.ofExcept (renderer.function name)
    let arguments ← renderAll renderer arguments
    return function.render arguments

/-- Renders expressions one after another. -/
def Expression.renderAll (renderer : Renderer) : List Expression → Rendering (List String)
  | [] => pure []
  | expression :: rest => do
    let first ← expression.render renderer
    let others ← renderAll renderer rest
    return first :: others

end

def Order.render (renderer : Renderer) (order : Order) : Rendering String := do
  let expression ← order.expression.render renderer
  return expression ++ " " ++ order.direction

namespace Projection

/-- The argument of an aggregate as it stands in the call. -/
def renderArgument (renderer : Renderer) (argument : Expression) (distinct : Bool) :
    Rendering String := do
  let argument ← argument.render renderer
  return if distinct then "distinct " ++ argument else argument

/-- The rendered arguments of an aggregate; other projections have none. -/
def renderArguments (renderer : Renderer) : Projection → Rendering (List String)
  | aggregate _ argument distinct _ _ => do
    let argument ← renderArgument renderer argument distinct
    return [argument]
  | _ => pure []

/-- The call of a function with rendered arguments. -/
def renderCall (renderer : Renderer) (function : String) (arguments : List String)
    (label : Option String) : Rendering String := do
  let function ← MonadExcept.ofExcept (renderer.function function)
  return renderer.aliased (function.render arguments) label

mutual

/-- The text of the select list. -/
def render (renderer : Renderer) : Projection → Rendering String
  | aggregate function argument distinct label _ => do
    let argument ← renderArgument renderer argument distinct
    renderCall renderer function [argument] label
  | rowCount label => renderCall renderer "count" ["*"] label
  | property field label _ => pure (renderer.aliased (renderer.field field) label)
  | expression inner label => do
    let inner ← inner.render renderer
    return renderer.aliased inner label
  | list members => do
    let members ← renderAll renderer members
    return ", ".intercalate members

def renderAll (renderer : Renderer) : List Projection → Rendering (List String)
  | [] => pure []
  | projection :: rest => do
    let first ← render renderer projection
    let others ← renderAll renderer rest
    return first :: others

end

mutual

/-- The text of the grouping, without aliases. -/
def renderGroup (renderer : Renderer) : Projection → Rendering String
  | aggregate function argument distinct _ grouped =>
    if grouped then do
      let argument ← renderArgument renderer argument distinct
      renderCall renderer function [argument] none
    else pure ""
  | property field _ grouped => pure (if grouped then renderer.field field else "")
  | rowCount _ => pure ""
  | expression _ _ => pure ""
  | list members => do
    let members ← renderGroups renderer members
    return ", ".intercalate members

/-- The groupings of the grouped members. -/
def renderGroups (renderer : Renderer) : List Projection → Rendering (List String)
  | [] => pure []
  | projection :: rest =>
    if projection.isGrouped then do
      let first ← renderGroup renderer projection
      let others ← renderGroups renderer rest
      return first :: others
    else renderGroups renderer rest

end

end Projection

end SqlQuery
