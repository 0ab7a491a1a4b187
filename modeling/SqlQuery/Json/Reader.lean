import SqlQuery.Json.Token

/-! # Reading JSON

A reader takes one token at a time. Its state holds the arrays and objects that are still open, the
innermost first, and what may follow; so reading is one pass over the tokens. A well-formed text is
always read; what in it has no value becomes `Json.unreadable`.
-/

namespace SqlQuery.Json

/-- A container that waits for a value: an array for its next item, an object for the value of a
name. What it holds already is in reverse, and a name without a text is none. -/
inductive Frame
  | array (items : List Json)
  | member (name : Option String) (members : List (Option String × Json))

/-- What the reader expects next. -/
inductive Reading
  | value (stack : List Frame)
  | firstItem (stack : List Frame)
  | firstName (members : List (Option String × Json)) (stack : List Frame)
  | name (members : List (Option String × Json)) (stack : List Frame)
  | colon (name : Option String) (members : List (Option String × Json)) (stack : List Frame)
  | afterItem (items : List Json) (stack : List Frame)
  | afterMember (members : List (Option String × Json)) (stack : List Frame)
  | finished (value : Json)

namespace Reading

/-- Puts a complete value where it belongs. -/
def deliver (result : Json) : List Frame → Reading
  | [] => finished result
  | .array items :: stack => afterItem (result :: items) stack
  | .member key members :: stack => afterMember ((key, result) :: members) stack

/-- The object of members in reverse; a name without a text makes it unreadable. -/
def objectOf (members : List (Option String × Json)) : Json :=
  match members.reverse.mapM fun member => member.1.map fun name => (name, member.2) with
  | some members => .object members
  | none => .unreadable

section Steps

variable (double? : Numeral → Option Binary64)

/-- A token where a value is expected. -/
def takeValue (stack : List Frame) (token : Token) : Option Reading :=
  match token with
  | .null => some (deliver .null stack)
  | .bool truth => some (deliver (.bool truth) stack)
  | .number numeral => some (deliver (.ofNumeral double? numeral) stack)
  | .string (some text) => some (deliver (.string text) stack)
  | .string none => some (deliver .unreadable stack)
  | .openArray => some (firstItem stack)
  | .openObject => some (firstName [] stack)
  | _ => none

def step (reading : Reading) (token : Token) : Option Reading :=
  match reading, token with
  | value stack, token => takeValue double? stack token
  | firstItem stack, .closeArray => some (deliver (.array []) stack)
  | firstItem stack, token => takeValue double? (.array [] :: stack) token
  | firstName members stack, .closeObject => some (deliver (objectOf members) stack)
  | firstName members stack, .string text => some (colon text members stack)
  | name members stack, .string text => some (colon text members stack)
  | colon text members stack, .colon => some (value (.member text members :: stack))
  | afterItem items stack, .comma => some (value (.array items :: stack))
  | afterItem items stack, .closeArray => some (deliver (.array items.reverse) stack)
  | afterMember members stack, .comma => some (name members stack)
  | afterMember members stack, .closeObject => some (deliver (objectOf members) stack)
  | _, _ => none

/-- Runs the reader over tokens. -/
def run : Reading → List Token → Option Reading
  | reading, [] => some reading
  | reading, token :: rest =>
    match step double? reading token with
    | none => none
    | some next => run next rest

end Steps

end Reading

/-- The value that a text spells, given what stands for a number that is no integer; none when the
text is not well formed or something follows the value. -/
def readWith? (double? : Numeral → Option Binary64) (text : String) : Option Json :=
  match tokens? text with
  | none => none
  | some tokens =>
    match Reading.run double? (.value []) tokens with
    | some (.finished value) => some value
    | _ => none

/-- The value that a text spells, with numbers by the fast rule and a limit on nesting. -/
def read? (text : String) : Option Json :=
  (readWith? Numeral.scaled? text).map (limitNesting nestingLimit)

end SqlQuery.Json
