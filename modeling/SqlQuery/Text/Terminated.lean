/-! # Texts ended by a zero

The system's paths and the texts of PostgreSQL's messages end at the first zero character, so a text
that holds one cannot be handed over.
-/

namespace SqlQuery.Text

def hasZero (text : String) : Bool :=
  text.toList.any fun c => c.toNat = 0

end SqlQuery.Text
