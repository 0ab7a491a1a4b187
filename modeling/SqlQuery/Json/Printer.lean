import SqlQuery.Json.Basic

/-! # Writing JSON

The compact form has no spaces; the pretty form has one item or member a line, indented by two
blanks a level. Strings escape the quote, the backslash and control characters only. What has no
value is written as null.
-/

namespace SqlQuery.Json

/-- The lower-case hexadecimal digit of a value below sixteen. -/
def hexDigit (value : Nat) : Char :=
  Nat.digitChar value

/-- A character inside a string. -/
def escapeCharacter (c : Char) : List Char :=
  if c = '"' then ['\\', '"']
  else if c = '\\' then ['\\', '\\']
  else if c = '\x08' then ['\\', 'b']
  else if c = '\x0C' then ['\\', 'f']
  else if c = '\n' then ['\\', 'n']
  else if c = '\r' then ['\\', 'r']
  else if c = '\t' then ['\\', 't']
  else if c.toNat < 0x20 then
    ['\\', 'u', '0', '0', hexDigit (c.toNat / 16), hexDigit (c.toNat % 16)]
  else [c]

def quoted (text : String) : String :=
  String.ofList ('"' :: (text.toList.flatMap escapeCharacter ++ ['"']))

/-- A double that is not finite has no number and is written as null. -/
def doubleText (value : Binary64) : String :=
  if value.isFinite then value.finiteText .json else "null"

mutual

def compact : Json → String
  | null => "null"
  | bool value => if value then "true" else "false"
  | integer value => toString value
  | double value => doubleText value
  | string value => quoted value
  | array items => "[" ++ ",".intercalate (compactItems items) ++ "]"
  | object members => "\x7b" ++ ",".intercalate (compactMembers members) ++ "\x7d"
  | unreadable => "null"

def compactItems : List Json → List String
  | [] => []
  | item :: rest => compact item :: compactItems rest

def compactMembers : List (String × Json) → List String
  | [] => []
  | (name, value) :: rest => (quoted name ++ ":" ++ compact value) :: compactMembers rest

end

/-- A line break and the indentation of a level. -/
def newline (level : Nat) : String :=
  String.ofList ('\n' :: List.replicate (2 * level) ' ')

/-- Lines between brackets, or the brackets alone when there is none. -/
def bracketed (level : Nat) (opening closing : String) (lines : List String) : String :=
  if lines.isEmpty then opening ++ closing
  else
    opening ++ newline (level + 1) ++ ("," ++ newline (level + 1)).intercalate lines ++
      newline level ++ closing

mutual

def prettyAt (level : Nat) : Json → String
  | array items => bracketed level "[" "]" (prettyItems (level + 1) items)
  | object members => bracketed level "\x7b" "\x7d" (prettyMembers (level + 1) members)
  | null => "null"
  | bool value => if value then "true" else "false"
  | integer value => toString value
  | double value => doubleText value
  | string value => quoted value
  | unreadable => "null"

def prettyItems (level : Nat) : List Json → List String
  | [] => []
  | item :: rest => prettyAt level item :: prettyItems level rest

def prettyMembers (level : Nat) : List (String × Json) → List String
  | [] => []
  | (name, value) :: rest =>
    (quoted name ++ ": " ++ prettyAt level value) :: prettyMembers level rest

end

def pretty (value : Json) : String :=
  prettyAt 0 value

end SqlQuery.Json
