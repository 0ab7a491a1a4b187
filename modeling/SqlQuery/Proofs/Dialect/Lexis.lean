import SqlQuery.Proofs.Dialect.Regular
import SqlQuery.Proofs.Text.Scanner

/-! # How dialects are scanned

Each known dialect has its scanner. Whatever a literal or an identifier of the dialect holds, the
scanner reads it as one token, provided that a break follows.
-/

namespace SqlQuery

def DialectKind.lexis : DialectKind → Lexis
  | generic | postgres | sqlite => { opening := '"', closing := '"' }
  | mysql => { opening := Char.ofNat 0x60, closing := Char.ofNat 0x60, backslash := true }
  | sqlserver => { opening := '[', closing := ']' }

/-- A scanner that has the delimiters and the escapes of a dialect. -/
structure Lexis.Fits (lexis : Lexis) (dialect : Dialect) : Prop where
  opening_eq : dialect.openQuote = lexis.opening
  closing_eq : dialect.closeQuote = lexis.closing
  backslash_eq : dialect.backslashEscapes = lexis.backslash
  opening_ne : lexis.opening ≠ '\''
  opening_special : isBasicCharacter lexis.opening = false
  closing_special : isBreak lexis.closing = false

theorem DialectKind.lexis_fits (kind : DialectKind) : kind.lexis.Fits kind.dialect := by
  cases kind <;> exact ⟨rfl, rfl, rfl, by decide, by decide, by decide⟩

namespace Lexis.Fits

variable {lexis : Lexis} {dialect : Dialect} (fits : lexis.Fits dialect)

include fits

theorem reads_basic {text : String} (basic : isBasic text) :
    lexis.Reads text.toList (text.toList.map .plain) := by
  apply reads_plain
  intro c member
  have basic := List.all_eq_true.mp basic c member
  refine ⟨?_, ?_⟩
  · rintro rfl
    contradiction
  · rintro rfl
    exact absurd (fits.opening_special.symm.trans basic) (by decide)

/-- A quoted literal is read as the text that was quoted. -/
theorem scanFrom_quoteLiteral (text : String) {rest : List Char}
    (broken : ∀ c ∈ rest.head?, isBreak c) :
    lexis.scanFrom .outside ((dialect.quoteLiteral text).toList ++ rest) =
      (lexis.scanFrom .outside rest).map (.literal text :: ·) := by
  have body : (dialect.quoteLiteral text).toList = '\'' :: (Text.doubled '\''
      (if lexis.backslash then Text.doubled '\\' text.toList else text.toList) ++ ['\'']) := by
    rw [Dialect.quoteLiteral, fits.backslash_eq]
    cases lexis.backslash <;>
      simp [Text.quoteLiteral, Text.quoteWith, Text.quoteCharacters, Text.escapeMark]
  have ended : ∀ c ∈ rest.head?, c ≠ '\'' := by
    rintro c first rfl
    exact absurd (broken '\'' first) (by decide)
  have literal := @scanFrom_literal lexis [] text.toList rest
  rw [List.nil_append, scanFrom_quote _ ended, String.ofList_toList] at literal
  rw [body, List.cons_append, List.append_assoc, List.singleton_append, scanFrom]
  simpa [step, enter] using literal

/-- An identifier between delimiters is read as what was quoted. -/
theorem scanFrom_quoteCharacters (body : List Char) {rest : List Char}
    (broken : ∀ c ∈ rest.head?, isBreak c) :
    lexis.scanFrom .outside
        (Text.quoteCharacters dialect.openQuote dialect.closeQuote body ++ rest) =
      (lexis.scanFrom .outside rest).map (.identifier (String.ofList body) :: ·) := by
  have ended : ∀ c ∈ rest.head?, c ≠ lexis.closing := by
    rintro c first rfl
    exact absurd (fits.closing_special.symm.trans (broken _ first)) (by decide)
  have name := @scanFrom_identifier lexis [] body rest
  rw [List.nil_append, scanFrom_delimiter _ ended] at name
  rw [Text.quoteCharacters, fits.opening_eq, fits.closing_eq, List.cons_append, List.append_assoc,
    List.singleton_append, scanFrom]
  simpa [step, enter, fits.opening_ne] using name

/-- A quoted identifier is read as one token. -/
theorem scanFrom_quote (identifier : String) : ∃ name, ∀ rest : List Char,
    (∀ c ∈ rest.head?, isBreak c) →
      lexis.scanFrom .outside ((dialect.quote identifier).toList ++ rest) =
        (lexis.scanFrom .outside rest).map (.identifier name :: ·) := by
  obtain ⟨body, written⟩ := dialect.exists_quote_eq identifier
  refine ⟨String.ofList body, ?_⟩
  intro rest broken
  rw [written, fits.scanFrom_quoteCharacters body broken]

theorem reads_now : ∃ tokens, lexis.Reads "datetime('now')".toList tokens := by
  have call : lexis.Reads "datetime(".toList _ := fits.reads_basic rfl
  have close : lexis.Reads [')'] _ := fits.reads_basic (rfl : isBasic ")" = true)
  have written : (dialect.quoteLiteral "now").toList = "'now'".toList := by
    rw [Dialect.quoteLiteral]
    split <;> rfl
  have literal : lexis.Reads "'now')".toList [.literal "now", .plain ')'] := by
    intro rest
    have broken : ∀ c ∈ (')' :: rest).head?, isBreak c := by simp [isBreak]
    have read := fits.scanFrom_quoteLiteral "now" broken
    have last : lexis.scanFrom .outside (')' :: rest) = _ := close rest
    rw [written, last, Option.map_map] at read
    exact read
  exact ⟨_, call.append literal⟩

end Lexis.Fits

end SqlQuery
