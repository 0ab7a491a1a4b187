import SqlQuery.Dialect.Function
import SqlQuery.Text.Quoting

/-! # Dialects

A dialect says how one engine spells what a statement needs: quoted identifiers, literals,
placeholders, functions and the paging window. It never sees the tree of a query.
-/

namespace SqlQuery

/-- How a window of rows is appended to a statement. -/
inductive PagingStyle
  /-- `LIMIT n`, followed by `OFFSET m` unless `m` is zero. -/
  | limitOffset
  /-- `LIMIT m, n`, or `LIMIT n` when `m` is zero. -/
  | limitPair
  /-- `OFFSET m ROWS FETCH NEXT n ROWS ONLY`, after an order in any case. -/
  | offsetFetch
  deriving DecidableEq, Repr

structure Dialect where
  name : String
  openQuote : Char := '"'
  closeQuote : Char := '"'
  /-- What a placeholder starts with. -/
  marker : String := "@"
  lowerFunction : String := "lower"
  functions : Functions := .standard
  paging : PagingStyle := .limitOffset
  /-- The engine has a LIKE that ignores case. -/
  nativeIlike : Bool := false
  /-- The operand of NOT stands in parentheses. -/
  parenthesizesNot : Bool := false
  /-- A backslash escapes the next character of a literal. -/
  backslashEscapes : Bool := false
  trueLiteral : String := "TRUE"
  falseLiteral : String := "FALSE"

namespace Dialect

variable (dialect : Dialect)

/-- Quotes an identifier, unless it is quoted already. -/
def quote (identifier : String) : String :=
  if Text.isQuoted dialect.openQuote dialect.closeQuote identifier then identifier
  else Text.quoteWith dialect.openQuote dialect.closeQuote identifier

def quoteLiteral (text : String) : String :=
  Text.quoteLiteral (if dialect.backslashEscapes then Text.escapeMark '\\' text else text)

def booleanLiteral (value : Bool) : String :=
  if value then dialect.trueLiteral else dialect.falseLiteral

/-- Appends the order clause, if any. -/
def withOrder (sql : String) : Option String → String
  | none => sql
  | some order => sql ++ " " ++ order

/-- Restricts a select to `limit` rows after the first `offset`. -/
def page (sql : String) (order : Option String) (limit offset : UInt64) : String :=
  match dialect.paging with
  | .limitOffset =>
    let paged := withOrder sql order ++ " LIMIT " ++ toString limit.toNat
    if 0 < offset then paged ++ " OFFSET " ++ toString offset.toNat else paged
  | .limitPair =>
    if 0 < offset then
      withOrder sql order ++ " LIMIT " ++ toString offset.toNat ++ ", " ++ toString limit.toNat
    else withOrder sql order ++ " LIMIT " ++ toString limit.toNat
  | .offsetFetch =>
    sql ++ " " ++ order.getD "ORDER BY (SELECT NULL)" ++ " OFFSET " ++ toString offset.toNat ++
      " ROWS FETCH NEXT " ++ toString limit.toNat ++ " ROWS ONLY"

end Dialect

/-- The dialects that the library knows. -/
inductive DialectKind
  | generic
  | postgres
  | mysql
  | sqlite
  | sqlserver
  deriving DecidableEq, Repr, Inhabited

namespace DialectKind

def name : DialectKind → String
  | generic => "generic"
  | postgres => "postgres"
  | mysql => "mysql"
  | sqlite => "sqlite"
  | sqlserver => "sqlserver"

def all : List DialectKind := [generic, postgres, mysql, sqlite, sqlserver]

def ofName? (name : String) : Option DialectKind :=
  all.find? fun kind => kind.name = name

def dialect : DialectKind → Dialect
  | generic => { name := "generic" }
  | postgres =>
    { name := "postgres"
      marker := ":"
      functions := .standardWith [("now", .constant "now()")]
      nativeIlike := true }
  | mysql =>
    { name := "mysql"
      openQuote := Char.ofNat 0x60
      closeQuote := Char.ofNat 0x60
      marker := ":"
      functions := .standardWith [("concat", .call "concat"), ("length", .call "char_length")]
      paging := .limitPair
      parenthesizesNot := true
      backslashEscapes := true }
  | sqlite =>
    { name := "sqlite"
      marker := ":"
      functions := .standardWith [("now", .constant "datetime('now')")]
      trueLiteral := "1"
      falseLiteral := "0" }
  | sqlserver =>
    { name := "sqlserver"
      openQuote := '['
      closeQuote := ']'
      functions := .standardWith [("length", .call "len"), ("now", .constant "getdate()"),
        ("concat", .enclosing "(" " + " ")")]
      paging := .offsetFetch
      trueLiteral := "1"
      falseLiteral := "0" }

end DialectKind

end SqlQuery
