import SqlQuery.Proofs.Text.Quoting

/-! # Scanning SQL

A scanner reads a text from left to right into plain characters, string literals and identifiers.
A literal ends at the first single quote that is not doubled, an identifier at the first closing
delimiter that is not doubled. Where a backslash escapes, it also takes the next character of a
literal as it is. A text that ends inside a literal or an identifier cannot be scanned.
-/

namespace SqlQuery

/-- The delimiters of identifiers, and whether a backslash escapes in literals. -/
structure Lexis where
  opening : Char
  closing : Char
  backslash : Bool := false
  deriving DecidableEq, Repr

inductive Token
  | plain (c : Char)
  /-- A string literal, decoded. -/
  | literal (text : String)
  /-- A delimited identifier, decoded. -/
  | identifier (name : String)
  deriving DecidableEq, Repr

/-- Where a scanner is, with what it has read of the token. -/
inductive Place
  | outside
  | literal (read : List Char)
  /-- After a backslash. -/
  | escaped (read : List Char)
  /-- After a single quote, which ends the literal unless another one follows. -/
  | quote (read : List Char)
  | identifier (read : List Char)
  /-- After a closing delimiter, which ends the identifier unless another one follows. -/
  | delimiter (read : List Char)
  deriving DecidableEq, Repr

/-- The last token of a text, unless the text ends inside it. -/
def Place.finish : Place → Option (List Token)
  | outside => some []
  | quote read => some [.literal (String.ofList read)]
  | delimiter read => some [.identifier (String.ofList read)]
  | literal _ | escaped _ | identifier _ => none

namespace Lexis

variable (lexis : Lexis)

/-- Reads a character outside tokens. -/
def enter (c : Char) : List Token × Place :=
  if c = '\'' then ([], .literal [])
  else if c = lexis.opening then ([], .identifier [])
  else ([.plain c], .outside)

/-- Reads a character; gives the tokens that are complete. -/
def step : Place → Char → List Token × Place
  | .outside, c => lexis.enter c
  | .literal read, c =>
    if c = '\'' then ([], .quote read)
    else if lexis.backslash && c = '\\' then ([], .escaped read)
    else ([], .literal (read ++ [c]))
  | .escaped read, c => ([], .literal (read ++ [c]))
  | .quote read, c =>
    if c = '\'' then ([], .literal (read ++ [c]))
    else (.literal (String.ofList read) :: (lexis.enter c).1, (lexis.enter c).2)
  | .identifier read, c =>
    if c = lexis.closing then ([], .delimiter read) else ([], .identifier (read ++ [c]))
  | .delimiter read, c =>
    if c = lexis.closing then ([], .identifier (read ++ [c]))
    else (.identifier (String.ofList read) :: (lexis.enter c).1, (lexis.enter c).2)

def scanFrom : Place → List Char → Option (List Token)
  | place, [] => place.finish
  | place, c :: rest =>
    (scanFrom (lexis.step place c).2 rest).map ((lexis.step place c).1 ++ ·)

/-- The tokens of a text, if it does not end inside one. -/
def scan (text : String) : Option (List Token) :=
  lexis.scanFrom .outside text.toList

variable {lexis : Lexis}

/-- Characters that are read as given tokens outside tokens, whatever comes next. -/
def Reads (lexis : Lexis) (cs : List Char) (tokens : List Token) : Prop :=
  ∀ rest, lexis.scanFrom .outside (cs ++ rest) = (lexis.scanFrom .outside rest).map (tokens ++ ·)

theorem Reads.append {first second : List Char} {tokens tokens' : List Token}
    (reads : lexis.Reads first tokens) (reads' : lexis.Reads second tokens') :
    lexis.Reads (first ++ second) (tokens ++ tokens') := by
  intro rest
  rw [List.append_assoc, reads, reads', Option.map_map]
  simp [Function.comp_def]

theorem Reads.scan_eq {text : String} {tokens : List Token}
    (reads : lexis.Reads text.toList tokens) : lexis.scan text = some tokens := by
  have whole := reads []
  simpa [scan, scanFrom, Place.finish] using whole

theorem reads_plain {cs : List Char} (plain : ∀ c ∈ cs, c ≠ '\'' ∧ c ≠ lexis.opening) :
    lexis.Reads cs (cs.map .plain) := by
  intro rest
  induction cs with
  | nil => simp
  | cons c others ih =>
    obtain ⟨⟨single, opening⟩, tail⟩ := List.forall_mem_cons.mp plain
    rw [List.cons_append, scanFrom, step, enter, if_neg single, if_neg opening, ih tail,
      Option.map_map]
    rfl

/-- A single quote ends a literal when no other one follows. -/
theorem scanFrom_quote (read : List Char) {rest : List Char}
    (ended : ∀ c ∈ rest.head?, c ≠ '\'') :
    lexis.scanFrom (.quote read) rest =
      (lexis.scanFrom .outside rest).map (.literal (String.ofList read) :: ·) := by
  cases rest with
  | nil => rfl
  | cons c others =>
    have different : c ≠ '\'' := ended c rfl
    simp [scanFrom, step, different, Function.comp_def]

theorem scanFrom_delimiter (read : List Char) {rest : List Char}
    (ended : ∀ c ∈ rest.head?, c ≠ lexis.closing) :
    lexis.scanFrom (.delimiter read) rest =
      (lexis.scanFrom .outside rest).map (.identifier (String.ofList read) :: ·) := by
  cases rest with
  | nil => rfl
  | cons c others =>
    have different : c ≠ lexis.closing := ended c rfl
    simp [scanFrom, step, different, Function.comp_def]

/-- The body of a literal is decoded, and the quote after it may be its last. -/
theorem scanFrom_literal (read text rest : List Char) :
    lexis.scanFrom (.literal read)
        (Text.doubled '\'' (if lexis.backslash then Text.doubled '\\' text else text) ++
          '\'' :: rest) =
      lexis.scanFrom (.quote (read ++ text)) rest := by
  induction text generalizing read with
  | nil => simp [Text.doubled, scanFrom, step]
  | cons c others ih =>
    have next := ih (read ++ [c])
    rw [List.append_assoc, List.singleton_append] at next
    rw [← next]
    by_cases quote : c = '\''
    · cases lexis.backslash <;> simp [Text.doubled, scanFrom, step, quote]
    · by_cases slash : c = '\\'
      · cases escapes : lexis.backslash <;> simp [Text.doubled, scanFrom, step, slash, escapes]
      · cases escapes : lexis.backslash <;>
          simp [Text.doubled, scanFrom, step, quote, slash, escapes]

theorem scanFrom_identifier (read name rest : List Char) :
    lexis.scanFrom (.identifier read)
        (Text.doubled lexis.closing name ++ lexis.closing :: rest) =
      lexis.scanFrom (.delimiter (read ++ name)) rest := by
  induction name generalizing read with
  | nil => simp [Text.doubled, scanFrom, step]
  | cons c others ih =>
    have next := ih (read ++ [c])
    rw [List.append_assoc, List.singleton_append] at next
    rw [← next]
    by_cases closing : c = lexis.closing <;> simp [Text.doubled, scanFrom, step, closing]

end Lexis

end SqlQuery
