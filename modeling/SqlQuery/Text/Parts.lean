/-! # Parts of a text

A text is cut at every occurrence of a mark, so there is one part more than there are marks.
-/

namespace SqlQuery.Text

/-- The parts between marks. -/
def parts (mark : Char) : List Char → List (List Char)
  | [] => [[]]
  | c :: rest =>
    match parts mark rest with
    | [] => [[c]]
    | part :: later => if c = mark then [] :: part :: later else (c :: part) :: later

end SqlQuery.Text
