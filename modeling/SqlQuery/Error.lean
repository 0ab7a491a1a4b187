/-! # Errors

The causes for which a query cannot be rendered or run, and their messages.
-/

namespace SqlQuery

/-- Why a tree cannot be rendered. -/
inductive RenderError
  | functionNotFound (function dialect : String)
  | unmappedEntity (entity : String)
  | invalidLiteral (value : String)
  deriving DecidableEq, Repr

def RenderError.message : RenderError → String
  | functionNotFound function dialect =>
    "Function '" ++ function ++ "' is not defined for the " ++ dialect ++ " dialect"
  | unmappedEntity entity => "No table mapping for entity '" ++ entity ++ "'"
  | invalidLiteral value => "Cannot inline " ++ value ++ " as a SQL literal"

/-- Why a row does not have the wanted shape. A row type may have reasons of its own. -/
inductive ShapeError
  | missingField (name : String)
  | invalidType (found expected : String)
  | custom (message : String)
  deriving DecidableEq, Repr

def ShapeError.message : ShapeError → String
  | missingField name => "missing field \x60" ++ name ++ "\x60"
  | invalidType found expected => "invalid type: " ++ found ++ ", expected " ++ expected
  | custom message => message

/-- Why the database gives no answer, or not one of the wanted form. -/
inductive DatabaseError
  | connectFailed (backend message : String)
  | invalidConfig (message : String)
  | execution (message : String)
  | deserialize (cause : ShapeError)
  | unexpectedColumns (count : Nat)
  | invalidScalar (typeName : String)
  deriving DecidableEq, Repr

def DatabaseError.message : DatabaseError → String
  | connectFailed backend message => "Failed to connect to " ++ backend ++ ": " ++ message
  | invalidConfig message => "Invalid database configuration: " ++ message
  | execution message => message
  | deserialize cause => "Failed to deserialize result row: " ++ cause.message
  | unexpectedColumns count =>
    "Expected a single column in scalar result, found " ++ toString count
  | invalidScalar typeName => "Expected an integer scalar, found " ++ typeName

/-- Why a query gives no result. -/
inductive QueryError
  | render (cause : RenderError)
  | cardinality (expected actual : Nat)
  | database (cause : DatabaseError)
  deriving DecidableEq, Repr

def QueryError.message : QueryError → String
  | render cause => cause.message
  | cardinality expected actual =>
    "Expected " ++ toString expected ++ " row(s), got " ++ toString actual
  | database cause => cause.message

end SqlQuery
