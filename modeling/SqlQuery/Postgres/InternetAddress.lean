import SqlQuery.Json.Token
import SqlQuery.Number.Numeral
import SqlQuery.Text.Parts

/-! # Internet addresses

The written forms of addresses of version four and six. An address of version six has eight groups of
sixteen bits; two colons stand for one group of zeros or more, and an address of version four may
stand for the last two groups.
-/

namespace SqlQuery.Postgres.InternetAddress

/-- A number up to 255 without leading zeros. -/
def isOctet (cs : List Char) : Bool :=
  cs.length ≤ 3 && (cs = ['0'] || cs.head? ≠ some '0') && (Numeral.natural? cs).any (· < 256)

def isVersion4 (cs : List Char) : Bool :=
  let octets := Text.parts '.' cs
  octets.length = 4 && octets.all isOctet

/-- Up to four hexadecimal digits. -/
def isGroup (cs : List Char) : Bool :=
  !cs.isEmpty && cs.length ≤ 4 && cs.all fun c => (Json.hexDigit? c).isSome

/-- How many groups a sequence without omission has. -/
def groupCount? (mayEndInVersion4 : Bool) (cs : List Char) : Option Nat :=
  if cs.isEmpty then some 0
  else
    let groups := Text.parts ':' cs
    if groups.all isGroup then some groups.length
    else if mayEndInVersion4 && groups.dropLast.all isGroup && groups.getLast?.any isVersion4 then
      some (groups.length + 1)
    else none

/-- The text before the first two colons in a row, and the text after them. -/
def omission? : List Char → Option (List Char × List Char)
  | ':' :: ':' :: rest => some ([], rest)
  | c :: rest => (omission? rest).map fun (before, after) => (c :: before, after)
  | [] => none

def isVersion6 (cs : List Char) : Bool :=
  match omission? cs with
  | none => groupCount? true cs = some 8
  | some (before, after) =>
    match groupCount? false before, groupCount? true after with
    | some first, some last => first + last < 8
    | _, _ => false

def isAddress (text : String) : Bool :=
  isVersion4 text.toList || isVersion6 text.toList

end SqlQuery.Postgres.InternetAddress
