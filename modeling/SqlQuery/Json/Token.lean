import SqlQuery.Json.Basic

/-! # JSON tokens

A text is cut into tokens from the left: marks, words, numbers and strings, with white space
between them. Each reader takes characters from the front and returns the rest. It checks how a token
is written and not what it stands for: a number keeps its digits, and a string with half of a
surrogate pair is a token without a text.
-/

namespace SqlQuery.Json

inductive Token
  | openArray
  | closeArray
  | openObject
  | closeObject
  | colon
  | comma
  | null
  | bool (value : Bool)
  | number (numeral : Numeral)
  | string (text : Option String)
  deriving DecidableEq, Repr

def isWhitespace (c : Char) : Bool :=
  c = ' ' || c = '\n' || c = '\r' || c = '\t'

/-- The value of a hexadecimal digit of either case. -/
def hexDigit? (c : Char) : Option Nat :=
  if '0' ≤ c && c ≤ '9' then some (c.toNat - '0'.toNat)
  else if 'a' ≤ c && c ≤ 'f' then some (c.toNat - 'a'.toNat + 10)
  else if 'A' ≤ c && c ≤ 'F' then some (c.toNat - 'A'.toNat + 10)
  else none

/-- The 16-bit unit that four hexadecimal digits spell. -/
def unit? (a b c d : Char) : Option Nat := do
  let a ← hexDigit? a
  let b ← hexDigit? b
  let c ← hexDigit? c
  let d ← hexDigit? d
  return ((a * 16 + b) * 16 + c) * 16 + d

def isHighSurrogate (unit : Nat) : Bool := 0xD800 ≤ unit && unit < 0xDC00

def isLowSurrogate (unit : Nat) : Bool := 0xDC00 ≤ unit && unit < 0xE000

/-- The character of a one-letter escape. -/
def escapedCharacter? (c : Char) : Option Char :=
  match c with
  | '"' => some '"'
  | '\\' => some '\\'
  | '/' => some '/'
  | 'b' => some '\x08'
  | 'f' => some '\x0C'
  | 'n' => some '\n'
  | 'r' => some '\r'
  | 't' => some '\t'
  | _ => none

/-- A piece of a string: a character, or the 16-bit unit that an escape by number spells. -/
inductive Piece
  | character (c : Char)
  | unit (value : Nat)
  deriving DecidableEq, Repr

/-- Reads the pieces of a string after its opening quote. A control character must be escaped. -/
def readPieces : List Char → Option (List Piece × List Char)
  | [] => none
  | '"' :: rest => some ([], rest)
  | '\\' :: 'u' :: a :: b :: c :: d :: rest =>
    match unit? a b c d with
    | none => none
    | some unit => (readPieces rest).map fun (pieces, left) => (.unit unit :: pieces, left)
  | '\\' :: c :: rest =>
    match escapedCharacter? c with
    | none => none
    | some escaped => (readPieces rest).map fun (pieces, left) => (.character escaped :: pieces, left)
  | c :: rest =>
    if c.toNat < 0x20 || c = '\\' then none
    else (readPieces rest).map fun (pieces, left) => (.character c :: pieces, left)

/-- The characters of pieces. A high and a low surrogate make one character together and stand for
nothing alone. -/
def charactersOf? : List Piece → Option (List Char)
  | [] => some []
  | .character c :: rest => (charactersOf? rest).map (c :: ·)
  | .unit high :: .unit low :: rest =>
    if isHighSurrogate high && isLowSurrogate low then
      let code := 0x10000 + (high - 0xD800) * 0x400 + (low - 0xDC00)
      (charactersOf? rest).map (Char.ofNat code :: ·)
    else if isHighSurrogate high || isLowSurrogate high then none
    else (charactersOf? (.unit low :: rest)).map (Char.ofNat high :: ·)
  | .unit value :: rest =>
    if isHighSurrogate value || isLowSurrogate value then none
    else (charactersOf? rest).map (Char.ofNat value :: ·)

/-- Digits that must not be missing. -/
def readDigits? (cs : List Char) : Option (List Char × List Char) :=
  match cs.takeWhile Char.isDigit with
  | [] => none
  | digits => some (digits, cs.dropWhile Char.isDigit)

/-- The whole part: a zero alone, or digits that do not start with zero. -/
def readWhole? (cs : List Char) : Option (List Char × List Char) :=
  match cs with
  | '0' :: rest => some (['0'], rest)
  | _ => readDigits? cs

def readFraction? (cs : List Char) : Option (Option (List Char) × List Char) :=
  match cs with
  | '.' :: rest => (readDigits? rest).map fun (digits, left) => (some digits, left)
  | _ => some (none, cs)

def readExponent? (cs : List Char) : Option (Option (Bool × List Char) × List Char) :=
  match cs with
  | [] => some (none, [])
  | c :: rest =>
    if c = 'e' || c = 'E' then
      let (negative, unsigned) := match rest with
        | '+' :: later => (false, later)
        | '-' :: later => (true, later)
        | _ => (false, rest)
      (readDigits? unsigned).map fun (digits, left) => (some (negative, digits), left)
    else some (none, cs)

def readNumber? (cs : List Char) : Option (Numeral × List Char) := do
  let (negative, unsigned) := match cs with
    | '-' :: rest => (true, rest)
    | _ => (false, cs)
  let (whole, afterWhole) ← readWhole? unsigned
  let (fraction, afterFraction) ← readFraction? afterWhole
  let (exponent, rest) ← readExponent? afterFraction
  return (⟨negative, whole, fraction, exponent⟩, rest)

/-- Reads one token at the front of a text that does not start with white space. -/
def Token.read? (cs : List Char) : Option (Token × List Char) :=
  match cs with
  | [] => none
  | '[' :: rest => some (.openArray, rest)
  | ']' :: rest => some (.closeArray, rest)
  | '\x7b' :: rest => some (.openObject, rest)
  | '\x7d' :: rest => some (.closeObject, rest)
  | ':' :: rest => some (.colon, rest)
  | ',' :: rest => some (.comma, rest)
  | 'n' :: 'u' :: 'l' :: 'l' :: rest => some (.null, rest)
  | 't' :: 'r' :: 'u' :: 'e' :: rest => some (.bool true, rest)
  | 'f' :: 'a' :: 'l' :: 's' :: 'e' :: rest => some (.bool false, rest)
  | '"' :: rest =>
    (readPieces rest).map fun (pieces, left) =>
      (.string ((charactersOf? pieces).map String.ofList), left)
  | _ => (readNumber? cs).map fun (numeral, rest) => (.number numeral, rest)

/-- Cuts a text into tokens; `fuel` bounds their number. -/
def tokensWithin (fuel : Nat) (cs : List Char) : Option (List Token) :=
  match cs.dropWhile isWhitespace with
  | [] => some []
  | c :: rest =>
    match fuel with
    | 0 => none
    | fuel + 1 =>
      match Token.read? (c :: rest) with
      | none => none
      | some (token, left) => (tokensWithin fuel left).map (token :: ·)

/-- The tokens of a text. Each takes at least one character, so its length bounds their number. -/
def tokens? (text : String) : Option (List Token) :=
  tokensWithin text.length text.toList

end SqlQuery.Json
