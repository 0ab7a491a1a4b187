/-! # Quoting by doubling

A quoted text stands between an opening and a closing character, and each closing character inside
is written twice. A text counts as quoted when it has exactly this form.
-/

namespace SqlQuery.Text

/-- Writes each occurrence of `mark` twice. -/
def doubled (mark : Char) : List Char → List Char
  | [] => []
  | c :: rest => if c = mark then mark :: mark :: doubled mark rest else c :: doubled mark rest

/-- Whether each `mark` is followed by another one, taken in pairs from the left. -/
def marksPaired (mark : Char) : List Char → Bool
  | [] => true
  | [c] => c ≠ mark
  | c :: d :: rest =>
    if c = mark then d = mark && marksPaired mark rest else marksPaired mark (d :: rest)

/-- The characters of a text between quotes. -/
def quoteCharacters (opening closing : Char) (body : List Char) : List Char :=
  opening :: (doubled closing body ++ [closing])

/-- Whether characters have the form that `quoteCharacters` writes. -/
def isQuotedCharacters (opening closing : Char) : List Char → Bool
  | [] => false
  | first :: rest =>
    first = opening && rest.getLast? = some closing && marksPaired closing rest.dropLast

theorem marksPaired_doubled (mark : Char) (body : List Char) :
    marksPaired mark (doubled mark body) = true := by
  induction body with
  | nil => rfl
  | cons c rest ih =>
    by_cases same : c = mark
    · simp [doubled, same, marksPaired, ih]
    · rw [doubled, if_neg same]
      cases tail : doubled mark rest with
      | nil => simp [marksPaired, same]
      | cons d others =>
        rw [marksPaired, if_neg same, ← tail]
        exact ih

theorem isQuotedCharacters_quoteCharacters (opening closing : Char) (body : List Char) :
    isQuotedCharacters opening closing (quoteCharacters opening closing body) = true := by
  simp [quoteCharacters, isQuotedCharacters, marksPaired_doubled]

/-- A text with each occurrence of `mark` written twice. -/
def escapeMark (mark : Char) (text : String) : String :=
  String.ofList (doubled mark text.toList)

def quoteWith (opening closing : Char) (text : String) : String :=
  String.ofList (quoteCharacters opening closing text.toList)

def isQuoted (opening closing : Char) (text : String) : Bool :=
  isQuotedCharacters opening closing text.toList

@[simp] theorem isQuoted_quoteWith (opening closing : Char) (text : String) :
    isQuoted opening closing (quoteWith opening closing text) = true := by
  simp [isQuoted, quoteWith, isQuotedCharacters_quoteCharacters]

/-- A text as a literal between single quotes. -/
def quoteLiteral (text : String) : String :=
  quoteWith '\'' '\'' text

end SqlQuery.Text
