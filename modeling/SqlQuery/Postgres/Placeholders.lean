import SqlQuery.Bindings

/-! # Positional placeholders

PostgreSQL binds by position. A statement with named placeholders is cut into segments: outside
quotes, a marker followed by the name of a parameter is a placeholder, and every other character
stands for itself. Placeholders are then numbered in the order in which their names first occur.
-/

namespace SqlQuery.Postgres

inductive Segment
  | character (c : Char)
  | placeholder (name : String)
  deriving DecidableEq, Repr

/-- The characters of a parameter name. -/
def isNameCharacter (c : Char) : Bool :=
  c.isAlphanum || c = '_'

/-- The name after a marker at the front of a text, if it is the name of a parameter. The name is as
long as its characters go. -/
def leadingName? (marker : List Char) (isParameter : String → Bool) (cs : List Char) :
    Option (List Char) :=
  if !marker.isEmpty && marker.isPrefixOf cs then
    let name := (cs.drop marker.length).takeWhile isNameCharacter
    if !name.isEmpty && isParameter (String.ofList name) then some name else none
  else none

/-- The segments of a text. `quote` is the quotation mark that is open; `skip` is the number of
characters that belong to a placeholder already found. -/
def segmentsFrom (marker : List Char) (isParameter : String → Bool) :
    Option Char → Nat → List Char → List Segment
  | _, _, [] => []
  | quote, skip + 1, _ :: rest => segmentsFrom marker isParameter quote skip rest
  | some mark, 0, c :: rest =>
    .character c ::
      segmentsFrom marker isParameter (if c = mark then none else some mark) 0 rest
  | none, 0, c :: rest =>
    if c = '\'' || c = '"' then
      .character c :: segmentsFrom marker isParameter (some c) 0 rest
    else
      match leadingName? marker isParameter (c :: rest) with
      | some name =>
        .placeholder (String.ofList name) ::
          segmentsFrom marker isParameter none (marker.length + name.length - 1) rest
      | none => .character c :: segmentsFrom marker isParameter none 0 rest

/-- The names with one more, unless it is among them. -/
def withName (names : List String) (name : String) : List String :=
  if name ∈ names then names else names ++ [name]

/-- The text of a placeholder by position, counting from one. -/
def positional (names : List String) (name : String) : List Char :=
  '$' :: Nat.toDigits 10 (names.idxOf name + 1)

/-- Numbers placeholders after the names met before; gives the text and all names in order. -/
def number : List String → List Segment → List Char × List String
  | names, [] => ([], names)
  | names, .character c :: rest =>
    let (text, all) := number names rest
    (c :: text, all)
  | names, .placeholder name :: rest =>
    let names := withName names name
    let (text, all) := number names rest
    (positional names name ++ text, all)

/-- Replaces named placeholders by positions and lists the names by position. -/
def toPositional (sql marker : String) (isParameter : String → Bool) : String × List String :=
  let (text, names) := number [] (segmentsFrom marker.toList isParameter none 0 sql.toList)
  (String.ofList text, names)

end SqlQuery.Postgres
