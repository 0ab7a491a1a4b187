import SqlQuery.Text.Casing

/-! # Lower case

Lower-casing of a text by the full mapping of the Unicode standard: a dotted capital I becomes two
characters, and a capital sigma at the end of a word becomes a final sigma.
-/

namespace SqlQuery.Text

/-- The lower-case form of a character away from its context. -/
def lowerCharacter (c : Char) : List Char :=
  if c.toNat = 0x130 then [Char.ofNat 0x69, Char.ofNat 0x307]
  else
    match lowerRuns.find? fun (first, last, step, _) =>
        first ≤ c.toNat && c.toNat ≤ last && (c.toNat - first) % step = 0 with
    | some (_, _, _, shift) => [Char.ofNat (c.toNat + shift).toNat]
    | none => [c]

/-- Whether the next character that casing does not ignore is cased. -/
def meetsCased (cs : List Char) : Bool :=
  match cs.dropWhile isCaseIgnorable with
  | [] => false
  | c :: _ => isCased c

/-- Lower-cases the rest of a text after the characters `before`, the nearest first. -/
def lowerFrom (before : List Char) : List Char → List Char
  | [] => []
  | c :: rest =>
    let lowered :=
      if c.toNat = 0x3A3 then
        [Char.ofNat (if meetsCased before && !meetsCased rest then 0x3C2 else 0x3C3)]
      else lowerCharacter c
    lowered ++ lowerFrom (c :: before) rest

def lowercase (text : String) : String :=
  String.ofList (lowerFrom [] text.toList)

end SqlQuery.Text
