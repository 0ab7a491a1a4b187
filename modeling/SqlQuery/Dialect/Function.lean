import SqlQuery.Data.Dictionary
import SqlQuery.Text.Lowercase

/-! # SQL functions

A function renders a call from its rendered arguments. A dialect knows its functions by name,
whatever the case of the letters.
-/

namespace SqlQuery

inductive SqlFunction
  /-- A call in the usual form. -/
  | call (name : String)
  /-- A fixed text that takes no arguments and drops those it is given. -/
  | constant (sql : String)
  /-- The arguments between two texts, separated by a third. -/
  | enclosing (opening separator closing : String)
  deriving DecidableEq, Repr

def SqlFunction.render (function : SqlFunction) (arguments : List String) : String :=
  match function with
  | call name => name ++ "(" ++ ", ".intercalate arguments ++ ")"
  | constant sql => sql
  | enclosing opening separator closing => opening ++ separator.intercalate arguments ++ closing

/-- Functions by lower-case name. -/
structure Functions where
  byName : Dictionary SqlFunction

namespace Functions

def empty : Functions := ⟨∅⟩

/-- Defines a function, replacing one of the same name. -/
def define (functions : Functions) (name : String) (function : SqlFunction) : Functions :=
  ⟨functions.byName.insert (Text.lowercase name) function⟩

def find? (functions : Functions) (name : String) : Option SqlFunction :=
  functions.byName.find? (Text.lowercase name)

def contains (functions : Functions) (name : String) : Bool :=
  (functions.find? name).isSome

/-- The functions that every engine has, by their lower-case names. -/
def standardEntries : List (String × SqlFunction) :=
  (["count", "sum", "avg", "min", "max", "lower", "upper", "abs", "coalesce", "length"].map
    fun name => (name, .call name)) ++
  [("now", .constant "current_timestamp"), ("concat", .enclosing "(" " || " ")")]

/-- The standard functions, some of them spelled differently. -/
def standardWith (changes : List (String × SqlFunction)) : Functions :=
  ⟨Dictionary.ofList (standardEntries ++ changes)⟩

def standard : Functions := standardWith []

end Functions

end SqlQuery
