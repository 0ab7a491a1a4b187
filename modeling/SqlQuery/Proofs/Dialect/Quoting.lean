import Mathlib.Logic.Function.Basic
import SqlQuery.Proofs.Text.Quoting

/-! # Quoted identifiers are read back

After an opening character, a quoted text runs up to the first closing character that is not written
twice. Reading it so, with the doubled characters written once, accepts exactly what quoting writes,
for any two characters, and gives the identifier back. A dialect therefore quotes each name as one
identifier: the one that a quoted name quotes, and any other name itself.
-/

namespace SqlQuery

namespace Text

variable {mark opening closing : Char}

/-! ## Reading a quoted text -/

/-- What stands before the first `mark` that is not written twice, and what stands behind it. -/
def splitAtLone (mark : Char) : List Char → Option (List Char × List Char)
  | [] => none
  | [c] => if c = mark then some ([], []) else none
  | c :: d :: rest =>
    if c = mark then
      if d = mark then (splitAtLone mark rest).map (Prod.map ([mark, mark] ++ ·) id)
      else some ([], d :: rest)
    else (splitAtLone mark (d :: rest)).map (Prod.map (c :: ·) id)

/-- Writes each `mark` that is written twice once. -/
def undoubled (mark : Char) : List Char → List Char
  | [] => []
  | [c] => [c]
  | c :: d :: rest =>
    if c = mark ∧ d = mark then mark :: undoubled mark rest else c :: undoubled mark (d :: rest)

theorem undoubled_cons_of_ne {c : Char} (different : c ≠ mark) (rest : List Char) :
    undoubled mark (c :: rest) = c :: undoubled mark rest := by
  cases rest with
  | nil => rfl
  | cons d others => rw [undoubled, if_neg (fun same => different same.1)]

theorem undoubled_doubled (mark : Char) (body : List Char) :
    undoubled mark (doubled mark body) = body := by
  induction body with
  | nil => rfl
  | cons c rest ih =>
    by_cases same : c = mark
    · rw [doubled, if_pos same, undoubled, if_pos ⟨rfl, rfl⟩, ih, same]
    · rw [doubled, if_neg same, undoubled_cons_of_ne same, ih]

theorem splitAtLone_cons_of_ne {c : Char} (different : c ≠ mark) (rest : List Char) :
    splitAtLone mark (c :: rest) = (splitAtLone mark rest).map (Prod.map (c :: ·) id) := by
  cases rest with
  | nil => simp [splitAtLone, different]
  | cons d others => rw [splitAtLone, if_neg different]

/-- A body with doubled marks is passed over up to a mark that no other one follows. -/
theorem splitAtLone_doubled (body : List Char) {behind : List Char}
    (lone : behind.head? ≠ some mark) :
    splitAtLone mark (doubled mark body ++ mark :: behind) = some (doubled mark body, behind) := by
  induction body with
  | nil =>
    cases behind with
    | nil => simp [doubled, splitAtLone]
    | cons d others =>
      have different : d ≠ mark := by simpa using lone
      simp [doubled, splitAtLone, different]
  | cons c rest ih =>
    by_cases same : c = mark
    · rw [doubled, if_pos same, List.cons_append, List.cons_append, splitAtLone, if_pos rfl,
        if_pos rfl, ih]
      rfl
    · rw [doubled, if_neg same, List.cons_append, splitAtLone_cons_of_ne same, ih]
      rfl

/-- What is passed over is a body with its marks doubled. -/
theorem eq_of_splitAtLone {cs before behind : List Char}
    (split : splitAtLone mark cs = some (before, behind)) :
    cs = before ++ mark :: behind ∧ ∃ body, before = doubled mark body := by
  fun_induction splitAtLone mark cs generalizing before with
  | case1 => contradiction
  | case2 =>
    obtain ⟨rfl, rfl⟩ := Prod.mk.inj (Option.some.inj split)
    exact ⟨rfl, [], rfl⟩
  | case3 => contradiction
  | case4 rest ih =>
    obtain ⟨⟨inner, later⟩, found, same⟩ := Option.map_eq_some_iff.mp split
    obtain ⟨rfl, rfl⟩ := Prod.mk.inj same
    obtain ⟨rfl, body, rfl⟩ := ih found
    exact ⟨rfl, mark :: body, by simp [doubled]⟩
  | case5 =>
    obtain ⟨rfl, rfl⟩ := Prod.mk.inj (Option.some.inj split)
    exact ⟨rfl, [], rfl⟩
  | case6 c d rest different ih =>
    obtain ⟨⟨inner, later⟩, found, same⟩ := Option.map_eq_some_iff.mp split
    obtain ⟨rfl, rfl⟩ := Prod.mk.inj same
    obtain ⟨written, body, rfl⟩ := ih found
    exact ⟨congrArg (c :: ·) written, c :: body, by simp [doubled, different]⟩

/-- Reads a quoted text: behind the opening character, the first closing one that is not written
twice must be the last character, and between them each closing one stands for itself. -/
def unquote? (opening closing : Char) (text : String) : Option String :=
  match text.toList with
  | [] => none
  | first :: rest =>
    if first = opening then
      match splitAtLone closing rest with
      | some (inner, []) => some (String.ofList (undoubled closing inner))
      | _ => none
    else none

theorem unquote?_quoteWith (opening closing : Char) (identifier : String) :
    unquote? opening closing (quoteWith opening closing identifier) = some identifier := by
  have split : splitAtLone closing (doubled closing identifier.toList ++ [closing]) =
      some (doubled closing identifier.toList, []) :=
    splitAtLone_doubled identifier.toList (by simp)
  rw [unquote?, quoteWith, String.toList_ofList, quoteCharacters]
  simp only [split, undoubled_doubled, String.ofList_toList, if_true]

theorem eq_quoteWith_of_unquote? {text identifier : String}
    (read : unquote? opening closing text = some identifier) :
    text = quoteWith opening closing identifier := by
  rw [unquote?] at read
  cases cs : text.toList with
  | nil =>
    rw [cs] at read
    contradiction
  | cons first rest =>
    rw [cs] at read
    dsimp only at read
    split at read
    · rename_i opens
      split at read
      · rename_i inner split
        obtain ⟨written, body, rfl⟩ := eq_of_splitAtLone split
        obtain rfl := Option.some.inj read
        rw [quoteWith, quoteCharacters, undoubled_doubled, String.toList_ofList, ← written,
          ← opens, ← cs, String.ofList_toList]
      · contradiction
    · contradiction

theorem unquote?_eq_some_iff {text identifier : String} :
    unquote? opening closing text = some identifier ↔
      text = quoteWith opening closing identifier := by
  constructor
  · exact eq_quoteWith_of_unquote?
  · rintro rfl
    exact unquote?_quoteWith opening closing identifier

theorem quoteWith_injective (opening closing : Char) :
    Function.Injective (quoteWith opening closing) := by
  intro first second same
  have read := unquote?_quoteWith opening closing first
  rw [same, unquote?_quoteWith] at read
  exact (Option.some.inj read).symm

theorem isQuoted_iff (opening closing : Char) (text : String) :
    isQuoted opening closing text = true ↔
      ∃ identifier, text = quoteWith opening closing identifier := by
  constructor
  · intro quoted
    obtain ⟨body, written⟩ := exists_quoteCharacters_of_isQuoted quoted
    refine ⟨String.ofList body, ?_⟩
    rw [quoteWith, String.toList_ofList, ← written, String.ofList_toList]
  · rintro ⟨identifier, rfl⟩
    exact isQuoted_quoteWith opening closing identifier

end Text

/-! ## What a dialect quotes -/

namespace Dialect

variable (dialect : Dialect) {name : String}

theorem quote_of_isQuoted
    (quoted : Text.isQuoted dialect.openQuote dialect.closeQuote name = true) :
    dialect.quote name = name := by
  rw [quote, if_pos quoted]

theorem quote_of_not_isQuoted
    (bare : Text.isQuoted dialect.openQuote dialect.closeQuote name = false) :
    dialect.quote name = Text.quoteWith dialect.openQuote dialect.closeQuote name := by
  rw [quote, bare]
  rfl

theorem isQuoted_quote (name : String) :
    Text.isQuoted dialect.openQuote dialect.closeQuote (dialect.quote name) = true := by
  cases quoted : Text.isQuoted dialect.openQuote dialect.closeQuote name with
  | true => rw [dialect.quote_of_isQuoted quoted, quoted]
  | false =>
    rw [dialect.quote_of_not_isQuoted quoted]
    exact Text.isQuoted_quoteWith ..

/-- A text counts as quoted if and only if it is how one identifier is written. What a dialect makes
of a name is read back as an identifier, which is the name itself unless that is quoted; and quoting
leaves exactly the quoted texts as they are. -/
theorem quote_writes_one_identifier (name : String) :
    let written := Text.quoteWith dialect.openQuote dialect.closeQuote
    let read? := Text.unquote? dialect.openQuote dialect.closeQuote
    let quoted := Text.isQuoted dialect.openQuote dialect.closeQuote
    (quoted name = true ↔ ∃ identifier, name = written identifier) ∧
      Function.Injective written ∧
      (∃ identifier, dialect.quote name = written identifier ∧
        read? (dialect.quote name) = some identifier) ∧
      ((¬ ∃ identifier, name = written identifier) → read? (dialect.quote name) = some name) ∧
      dialect.quote (dialect.quote name) = dialect.quote name ∧
      (dialect.quote name = name ↔ ∃ identifier, name = written identifier) := by
  intro written read? quoted
  have images (text : String) : quoted text = true ↔ ∃ identifier, text = written identifier :=
    Text.isQuoted_iff dialect.openQuote dialect.closeQuote text
  have always : quoted (dialect.quote name) = true := dialect.isQuoted_quote name
  refine ⟨images name, Text.quoteWith_injective _ _, ?_, ?_, ?_, ?_⟩
  · obtain ⟨identifier, same⟩ := (images _).mp always
    exact ⟨identifier, same, Text.unquote?_eq_some_iff.mpr same⟩
  · intro other
    have bare : quoted name = false :=
      Bool.eq_false_iff.mpr fun same => other ((images name).mp same)
    exact Text.unquote?_eq_some_iff.mpr (dialect.quote_of_not_isQuoted bare)
  · exact dialect.quote_of_isQuoted always
  · constructor
    · intro same
      rw [same] at always
      exact (images name).mp always
    · intro image
      exact dialect.quote_of_isQuoted ((images name).mpr image)

end Dialect

end SqlQuery
