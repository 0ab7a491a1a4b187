import Mathlib.Tactic.SplitIfs
import SqlQuery.Proofs.Dialect.Lexis

/-! # What names stand for

A name stands for the identifier that it quotes, if it is quoted, and for itself otherwise. Whether it
is quoted is up to the scanner: a dialect takes for quoted exactly what is scanned as one identifier.
So what a dialect quotes is scanned as the identifier that the name stands for.
-/

namespace SqlQuery

/-! ## Texts without literals -/

theorem Text.doubled_append (mark : Char) (first second : List Char) :
    doubled mark (first ++ second) = doubled mark first ++ doubled mark second := by
  induction first with
  | nil => rfl
  | cons c rest ih =>
    rw [List.cons_append, doubled, doubled]
    split <;> simp [ih]

def Token.isLiteral : Token → Bool
  | literal _ => true
  | plain _ | identifier _ => false

def Place.isLiteral : Place → Bool
  | literal _ | escaped _ | quote _ => true
  | outside | identifier _ | delimiter _ => false

/-- How a token is written, unless it is a literal, which can be written in several ways. -/
def Token.written (lexis : Lexis) : Token → List Char
  | plain c => [c]
  | identifier name => Text.quoteCharacters lexis.opening lexis.closing name.toList
  | literal _ => []

/-- What a scanner has read of a token that is no literal. -/
def Place.written (lexis : Lexis) : Place → List Char
  | identifier read => lexis.opening :: Text.doubled lexis.closing read
  | delimiter read => Text.quoteCharacters lexis.opening lexis.closing read
  | outside | literal _ | escaped _ | quote _ => []

namespace Lexis

variable {lexis : Lexis} {place : Place} {cs : List Char} {tokens : List Token}

theorem written_enter (c : Char) (outside : (lexis.enter c).2.isLiteral = false) :
    (lexis.enter c).1.flatMap (Token.written lexis) ++ (lexis.enter c).2.written lexis = [c] := by
  rw [enter] at outside ⊢
  split_ifs at outside ⊢ with single opening
  · contradiction
  · simp [Place.written, Text.doubled, opening]
  · simp [Place.written, Token.written]

/-- What is written of the tokens grows by each character that is read. -/
theorem written_step {c : Char} (here : place.isLiteral = false)
    (there : (lexis.step place c).2.isLiteral = false) :
    (lexis.step place c).1.flatMap (Token.written lexis) ++ (lexis.step place c).2.written lexis =
      place.written lexis ++ [c] := by
  cases place with
  | literal | escaped | quote => contradiction
  | outside => exact written_enter c there
  | identifier read =>
    rw [step]
    split_ifs with closing
    · simp [Place.written, Text.quoteCharacters, closing]
    · simp [Place.written, Text.doubled_append, Text.doubled, closing]
  | delimiter read =>
    rw [step] at there ⊢
    split_ifs at there ⊢ with closing
    · simp [Place.written, Text.quoteCharacters, Text.doubled_append, Text.doubled, closing]
    · have entered := written_enter c there
      rw [List.flatMap_cons, List.append_assoc, entered]
      simp [Token.written, Place.written]

theorem isLiteral_step {c : Char} (here : place.isLiteral = true) :
    (lexis.step place c).2.isLiteral = true ∨ ∃ token ∈ (lexis.step place c).1, token.isLiteral := by
  cases place with
  | outside | identifier | delimiter => contradiction
  | literal read =>
    rw [step]
    split_ifs <;> exact .inl rfl
  | escaped read => exact .inl rfl
  | quote read =>
    rw [step]
    split_ifs
    · exact .inl rfl
    · exact .inr ⟨_, List.mem_cons_self .., rfl⟩

/-- A literal that has begun is one of the tokens. -/
theorem exists_literal_of_scanFrom (here : place.isLiteral = true)
    (scanned : lexis.scanFrom place cs = some tokens) : ∃ token ∈ tokens, token.isLiteral := by
  induction cs generalizing place tokens with
  | nil =>
    cases place with
    | outside | identifier | delimiter => contradiction
    | literal | escaped => cases scanned
    | quote read =>
      cases scanned
      exact ⟨_, List.mem_singleton_self _, rfl⟩
  | cons c rest ih =>
    obtain ⟨later, ran, rfl⟩ := Option.map_eq_some_iff.mp scanned
    rcases isLiteral_step here with there | ⟨token, member, literal⟩
    · obtain ⟨token, member, literal⟩ := ih there ran
      exact ⟨token, List.mem_append_right _ member, literal⟩
    · exact ⟨token, List.mem_append_left _ member, literal⟩

theorem isLiteral_of_scanFrom (scanned : lexis.scanFrom place cs = some tokens)
    (plain : ∀ token ∈ tokens, token.isLiteral = false) : place.isLiteral = false := by
  rw [← Bool.not_eq_true]
  intro here
  obtain ⟨token, member, literal⟩ := exists_literal_of_scanFrom here scanned
  rw [plain token member] at literal
  contradiction

/-- A text that is scanned without literals is what its tokens are written as. -/
theorem written_of_scanFrom (scanned : lexis.scanFrom place cs = some tokens)
    (plain : ∀ token ∈ tokens, token.isLiteral = false) :
    tokens.flatMap (Token.written lexis) = place.written lexis ++ cs := by
  induction cs generalizing place tokens with
  | nil => cases place <;> cases scanned <;> simp [Token.written, Place.written]
  | cons c rest ih =>
    have here := isLiteral_of_scanFrom scanned plain
    obtain ⟨later, ran, rfl⟩ := Option.map_eq_some_iff.mp scanned
    have after : ∀ token ∈ later, token.isLiteral = false :=
      fun token member => plain token (List.mem_append_right _ member)
    have step := written_step here (isLiteral_of_scanFrom ran after)
    rw [List.flatMap_append, ih ran after, ← List.append_assoc, step, List.append_assoc,
      List.singleton_append]

/-! ## Identifiers -/

/-- What is scanned as one identifier is the identifier between delimiters. -/
theorem toList_eq_of_scan {text name : String} (scanned : lexis.scan text = some [.identifier name]) :
    text.toList = Text.quoteCharacters lexis.opening lexis.closing name.toList := by
  have plain : ∀ token ∈ [Token.identifier name], token.isLiteral = false := by
    simp [Token.isLiteral]
  have written := written_of_scanFrom scanned plain
  simpa [Place.written, Token.written] using written.symm

/-- The identifier that a name stands for. -/
def denoted (lexis : Lexis) (name : String) : String :=
  match lexis.scan name with
  | some [.identifier inner] => inner
  | _ => name

namespace Fits

variable {dialect : Dialect} (fits : lexis.Fits dialect)

include fits

theorem scan_of_quoteCharacters {text : String} {body : List Char}
    (written : text.toList = Text.quoteCharacters dialect.openQuote dialect.closeQuote body) :
    lexis.scan text = some [.identifier (String.ofList body)] := by
  have read : lexis.scanFrom .outside (_ ++ []) = _ := fits.scanFrom_quoteCharacters body (by simp)
  rwa [List.append_nil, ← written] at read

/-- A dialect takes for quoted what is scanned as one identifier. -/
theorem isQuoted_iff_scan (text : String) :
    Text.isQuoted dialect.openQuote dialect.closeQuote text = true ↔
      ∃ name, lexis.scan text = some [.identifier name] := by
  constructor
  · intro quoted
    obtain ⟨body, written⟩ := Text.exists_quoteCharacters_of_isQuoted quoted
    exact ⟨_, fits.scan_of_quoteCharacters written⟩
  · rintro ⟨name, scanned⟩
    rw [Text.isQuoted, toList_eq_of_scan scanned, fits.opening_eq, fits.closing_eq]
    exact Text.isQuotedCharacters_quoteCharacters ..

/-- A name is quoted as the identifier that it stands for. -/
theorem quote_eq (name : String) :
    (dialect.quote name).toList =
      Text.quoteCharacters dialect.openQuote dialect.closeQuote (lexis.denoted name).toList := by
  have quoted := fits.isQuoted_iff_scan name
  rw [Dialect.quote, denoted]
  split
  · obtain ⟨inner, scanned⟩ := quoted.mp ‹_›
    rw [scanned, fits.opening_eq, fits.closing_eq]
    exact toList_eq_of_scan scanned
  · split
    · exact absurd (quoted.mpr ⟨_, ‹_›⟩) ‹_›
    · exact String.toList_ofList

end Fits

end Lexis

end SqlQuery
