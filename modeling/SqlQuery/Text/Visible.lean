import SqlQuery.Text.Printable

/-! # Texts made visible

A text between double quotes in which every character that would not show is spelled out, as error
messages cite it.
-/

namespace SqlQuery.Text

def visibleCharacter (c : Char) : List Char :=
  if c = '"' then ['\\', '"']
  else if c = '\\' then ['\\', '\\']
  else if c = '\n' then ['\\', 'n']
  else if c = '\r' then ['\\', 'r']
  else if c = '\t' then ['\\', 't']
  else if c.toNat = 0 then ['\\', '0']
  else if isPrintable c then [c]
  else ['\\', 'u', Char.ofNat 0x7B] ++ Nat.toDigits 16 c.toNat ++ [Char.ofNat 0x7D]

def visible (text : String) : String :=
  String.ofList ('"' :: text.toList.flatMap visibleCharacter ++ ['"'])

end SqlQuery.Text
