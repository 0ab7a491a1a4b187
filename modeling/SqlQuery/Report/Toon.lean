import SqlQuery.Text.DecimalDigit
import SqlQuery.Text.WordCharacter
import SqlQuery.Value

/-! # Token-oriented notation

A compact notation for records: one line a member, lists on one line with their length, and equal
records as a table. A string is written bare unless it could be read as something else.
-/

namespace SqlQuery.Toon

/-- What a member of a document holds. -/
inductive Section
  | scalar (value : Value)
  | group (members : List (String × Value))
  | items (values : List Value)
  | records (records : List (List (String × Value)))
  deriving Repr

/-- One or more digits at the front, and what follows them. -/
def afterDigits? (cs : List Char) : Option (List Char) :=
  match cs with
  | [] => none
  | c :: rest => if Text.isDecimalDigit c then some (rest.dropWhile Text.isDecimalDigit) else none

/-- What follows an optional fraction. -/
def afterFraction? (cs : List Char) : Option (List Char) :=
  match cs with
  | '.' :: rest => afterDigits? rest
  | _ => some cs

/-- What follows an optional exponent. -/
def afterExponent? (cs : List Char) : Option (List Char) :=
  match cs with
  | 'e' :: '+' :: rest => afterDigits? rest
  | 'e' :: '-' :: rest => afterDigits? rest
  | 'e' :: rest => afterDigits? rest
  | _ => some cs

/-- Whether characters spell a number. -/
def isNumeric (cs : List Char) : Bool :=
  let unsigned := match cs with
    | '-' :: rest => rest
    | _ => cs
  match (afterDigits? unsigned).bind afterFraction? |>.bind afterExponent? with
  | some [] => true
  | _ => false

/-- The characters that a bare string must not hold. -/
def needsQuotes (c : Char) : Bool :=
  c ∈ [':', '"', '\\', '[', ']', '\x7b', '\x7d', ',', '\n', '\r', '\t']

def isBlankAtEnds (cs : List Char) : Bool :=
  cs.head?.any Text.isBlank || cs.getLast?.any Text.isBlank

/-- Whether a string can stand without quotes. -/
def isBare (text : String) : Bool :=
  let cs := text.toList
  !cs.isEmpty && !isBlankAtEnds cs && text ∉ ["true", "false", "null"] && !isNumeric cs &&
    !cs.any needsQuotes && !(['-', ' '].isPrefixOf cs)

def escapeCharacter (c : Char) : List Char :=
  if c = '\\' then ['\\', '\\']
  else if c = '"' then ['\\', '"']
  else if c = '\n' then ['\\', 'n']
  else if c = '\r' then ['\\', 'r']
  else if c = '\t' then ['\\', 't']
  else [c]

def quoted (text : String) : String :=
  String.ofList ('"' :: (text.toList.flatMap escapeCharacter ++ ['"']))

def stringText (text : String) : String :=
  if isBare text then text else quoted text

/-- A key stands bare when it is a name, possibly with dots. -/
def keyText (key : String) : String :=
  match key.toList with
  | [] => quoted key
  | first :: rest =>
    if (first.isAlpha || first = '_') && rest.all fun c => Text.isWordCharacter c || c = '.' then key
    else quoted key

/-- Every number is written as the double nearest to it, a zero without sign. -/
def numberText (x : Binary64) : String :=
  if !x.isFinite then "null"
  else if x.isZero then "0"
  else x.finiteText .plain

def valueText : Value → String
  | .null => "null"
  | .bool value => if value then "true" else "false"
  | .int value => numberText (Binary64.ofInt value.toInt)
  | .float value => numberText value
  | .text value => stringText value

def memberText (member : String × Value) : String :=
  keyText member.1 ++ ": " ++ valueText member.2

def indented (line : String) : String :=
  "  " ++ line

/-- A key with the length of its list. -/
def listHead (key : String) (length : Nat) : String :=
  keyText key ++ "[" ++ toString length ++ "]"

def valuesText (values : List Value) : String :=
  ",".intercalate (values.map valueText)

/-- A record as an item of a list. -/
def recordLines : List (String × Value) → List String
  | [] => ["-"]
  | first :: rest => ("- " ++ memberText first) :: rest.map fun member => indented (memberText member)

/-- The common names of records that all have the same, unless there are none. -/
def commonNames? : List (List (String × Value)) → Option (List String)
  | [] => none
  | first :: rest =>
    let names := first.map (·.1)
    if !names.isEmpty && rest.all (fun record => record.map (·.1) = names) then some names else none

def sectionLines (key : String) : Section → List String
  | .scalar value => [memberText (key, value)]
  | .group members => (keyText key ++ ":") :: members.map fun member => indented (memberText member)
  | .items [] => [listHead key 0 ++ ":"]
  | .items values => [listHead key values.length ++ ": " ++ valuesText values]
  | .records records =>
    match commonNames? records with
    | some names =>
      let head := listHead key records.length ++ "\x7b" ++ ",".intercalate (names.map keyText) ++
        "\x7d:"
      head :: records.map fun record => indented (valuesText (record.map (·.2)))
    | none =>
      (listHead key records.length ++ ":") :: (records.flatMap recordLines).map indented

/-- A document of sections in the given order. -/
def document (sections : List (String × Section)) : String :=
  "\n".intercalate (sections.flatMap fun member => sectionLines member.1 member.2)

end SqlQuery.Toon
