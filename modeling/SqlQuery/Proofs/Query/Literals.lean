import SqlQuery.Proofs.Dialect.Lexis
import SqlQuery.Proofs.Query.Alike
import SqlQuery.Proofs.Render.Modes
import SqlQuery.Proofs.Render.Tidy

/-! # Texts stay in their literals

A literal statement of a guarded query is scanned piece by piece: each text, pattern and escape
character is read back as it was given, as one literal, and everything else is read as it would be
without it. So other texts in the same places change nothing outside the literals.
-/

namespace SqlQuery

/-! ## Literals of other values -/

theorem isBasic_ofList {cs : List Char} (basic : ∀ c ∈ cs, isBasicCharacter c) :
    isBasic (String.ofList cs) := by
  rw [isBasic, String.toList_ofList, List.all_eq_true]
  exact basic

theorem isBasic_toString_int (n : Int) : isBasic (toString n) := by
  cases n with
  | ofNat n => exact isBasic_toString n
  | negSucc n => exact isBasic_append rfl (isBasic_toString (n + 1))

theorem Layout.isBasic_positionalText {digits : List Char}
    (basic : ∀ c ∈ digits, isBasicCharacter c) (exponent : Int) :
    isBasic (positionalText "" digits exponent) := by
  have zeros (n : Nat) : ∀ c ∈ List.replicate n '0', isBasicCharacter c := by
    intro c member
    obtain rfl := List.eq_of_mem_replicate member
    rfl
  rw [positionalText]
  dsimp only
  split
  · refine isBasic_append (isBasic_ofList (List.forall_mem_append.mpr ⟨basic, zeros _⟩)) rfl
  · refine isBasic_ofList (List.forall_mem_append.mpr ⟨?_, List.forall_mem_cons.mpr ⟨rfl, ?_⟩⟩)
    · split
      · exact List.forall_mem_singleton.mpr rfl
      · exact fun c member => basic c (List.mem_of_mem_take member)
    · refine List.forall_mem_append.mpr ⟨zeros _, ?_⟩
      exact fun c member => basic c (List.mem_of_mem_drop member)

theorem Layout.isBasic_decimalText (decimal : Decimal) : isBasic (plain.decimalText decimal) := by
  apply isBasic_positionalText
  intro c member
  exact isBasicCharacter_of_isDigit (Nat.isDigit_of_mem_toDigits (by decide) (by decide) member)

theorem Binary64.isBasic_finiteText (x : Binary64) : isBasic (x.finiteText .plain) := by
  rw [finiteText]
  cases x.shortest? Layout.plain.tie with
  | none => split <;> rfl
  | some decimal =>
    have magnitude := Layout.isBasic_decimalText decimal
    split
    · exact isBasic_append rfl magnitude
    · exact magnitude

theorem Renderer.isBasic_literalText {renderer : Renderer}
    (booleans : ∀ value, isBasic (renderer.dialect.booleanLiteral value)) {value : Value}
    (other : ∀ text, value ≠ .text text) : isBasic (renderer.literalText value) := by
  cases value with
  | null =>
    change isBasic "NULL"
    rfl
  | bool value => exact booleans value
  | int value => exact isBasic_toString_int value.toInt
  | float value =>
    rw [literalText, literal]
    split
    · rename_i text rendered
      split at rendered
      · obtain rfl := Except.ok.inj rendered
        exact value.isBasic_finiteText
      · contradiction
    · rfl
  | text value => exact absurd rfl (other value)

/-! ## Scanned templates -/

namespace Lexis

/-- The tokens of a text, or nothing if it ends inside one. -/
def tokens (lexis : Lexis) (text : String) : List Token :=
  (lexis.scan text).getD []

theorem Reads.tokens_eq {lexis : Lexis} {text : String} {tokens : List Token}
    (reads : lexis.Reads text.toList tokens) : lexis.tokens text = tokens := by
  rw [Lexis.tokens, reads.scan_eq, Option.getD_some]

/-- A text that is read by itself, whatever comes next. -/
def Settled (lexis : Lexis) (text : String) : Prop :=
  ∃ tokens, lexis.Reads text.toList tokens

theorem Settled.reads {lexis : Lexis} {text : String} (settled : lexis.Settled text) :
    lexis.Reads text.toList (lexis.tokens text) := by
  obtain ⟨tokens, reads⟩ := settled
  rwa [reads.tokens_eq]

end Lexis

/-- What a piece of a literal statement is read as. A text is read as one literal that holds it. -/
def Piece.tokens (lexis : Lexis) (renderer : Renderer) : Piece → List Token
  | sql text => lexis.tokens text
  | name identifier => lexis.tokens (renderer.dialect.quote identifier)
  | quoted text => [.literal text]
  | hole (.text text) => [.literal text]
  | hole value => lexis.tokens (renderer.literalText value)
  | dropped _ => []

namespace Lexis.Fits

variable {lexis : Lexis} {renderer : Renderer} (fits : lexis.Fits renderer.dialect)

include fits

theorem scanFrom_name (identifier : String) {rest : List Char}
    (broken : ∀ c ∈ rest.head?, isBreak c) :
    lexis.scanFrom .outside ((renderer.dialect.quote identifier).toList ++ rest) =
      (lexis.scanFrom .outside rest).map
        ((Piece.name identifier).tokens lexis renderer ++ ·) := by
  obtain ⟨name, read⟩ := fits.scanFrom_quote identifier
  have alone : lexis.scan (renderer.dialect.quote identifier) = some [.identifier name] := by
    have whole := read [] (by simp)
    rwa [List.append_nil] at whole
  rw [read rest broken, Piece.tokens, tokens, alone]
  rfl

theorem scanFrom_hole (booleans : ∀ value, isBasic (renderer.dialect.booleanLiteral value))
    (value : Value) {rest : List Char} (broken : ∀ c ∈ rest.head?, isBreak c) :
    lexis.scanFrom .outside ((renderer.literalText value).toList ++ rest) =
      (lexis.scanFrom .outside rest).map ((Piece.hole value).tokens lexis renderer ++ ·) := by
  have basic (other : ∀ text, value ≠ .text text) :
      lexis.Reads (renderer.literalText value).toList (lexis.tokens (renderer.literalText value)) :=
    Settled.reads ⟨_, fits.reads_basic (Renderer.isBasic_literalText booleans other)⟩
  cases value with
  | text text => exact fits.scanFrom_quoteLiteral text broken
  | null | bool value | int value | float value => exact basic (by simp) rest

/-- A filled template is read piece by piece. -/
theorem scanFrom_fillFrom (booleans : ∀ value, isBasic (renderer.dialect.booleanLiteral value))
    {template : Template} (tidy : template.Tidy lexis.Settled) (index : Nat) :
    lexis.scanFrom .outside (template.fillFrom renderer.dialect
        (fun _ value => renderer.literalText value) index).toList =
      some (template.flatMap (Piece.tokens lexis renderer)) := by
  induction template generalizing index with
  | nil => rfl
  | cons piece rest ih =>
    have broken (isOpen : piece.isOpen) (index : Nat) := tidy.isBreak_of_head? isOpen
      renderer.dialect (fun _ value => renderer.literalText value) index
    have later := ih tidy.tail
    cases piece with
    | sql text =>
      have reads := (tidy.texts text (List.mem_cons_self ..)).reads
      rw [Template.fillFrom, String.toList_append, reads, later index]
      rfl
    | name identifier =>
      rw [Template.fillFrom, String.toList_append, fits.scanFrom_name identifier (broken rfl index),
        later index]
      rfl
    | quoted text =>
      rw [Template.fillFrom, String.toList_append, fits.scanFrom_quoteLiteral text
        (broken rfl index), later index]
      rfl
    | hole value =>
      rw [Template.fillFrom, String.toList_append, fits.scanFrom_hole booleans value
        (broken rfl (index + 1)), later (index + 1)]
      rfl
    | dropped value =>
      rw [Template.fillFrom, later (index + 1)]
      rfl

end Lexis.Fits

/-! ## Other texts in the same places -/

/-- A token without the text of a literal. -/
def Token.masked : Token → Token
  | literal _ => literal ""
  | token => token

inductive Value.SameButText : Value → Value → Prop
  | same (value : Value) : SameButText value value
  | text (left right : String) : SameButText (.text left) (.text right)

namespace Template.Alike

variable {related : Value → Value → Prop} {left right : Template}

theorem tidy {fixed : String → Prop} (alike : Template.Alike related left right)
    (tidy : left.Tidy fixed) : right.Tidy fixed := by
  induction alike with
  | nil => exact .nil
  | @cons piece piece' rest rest' head others ih =>
    have later := ih tidy.tail
    have separated := (List.isChain_cons.mp tidy.separated).1
    refine ⟨?_, List.isChain_cons.mpr ⟨?_, later.separated⟩⟩
    · intro text member
      rcases List.mem_cons.mp member with same | after
      · subst same
        cases head
        exact tidy.texts text (List.mem_cons_self ..)
      · exact later.texts text after
    · intro next first isOpen
      have opened : piece.isOpen := by cases head <;> exact isOpen
      cases others with
      | nil => contradiction
      | cons second _ =>
        obtain ⟨text, rfl, broken⟩ := separated _ rfl opened
        cases second
        exact ⟨text, (Option.some.inj first).symm, broken⟩

theorem masked_eq (alike : Template.Alike Value.SameButText left right) (lexis : Lexis)
    (renderer : Renderer) :
    (right.flatMap (Piece.tokens lexis renderer)).map Token.masked =
      (left.flatMap (Piece.tokens lexis renderer)).map Token.masked := by
  induction alike with
  | nil => rfl
  | cons head _ ih =>
    rw [List.flatMap_cons, List.flatMap_cons, List.map_append, List.map_append, ih]
    cases head with
    | sql | name | quoted | dropped => rfl
    | hole values => cases values <;> rfl

/-- Texts always have literals, and the other values are the same. -/
theorem literal_eq (alike : Template.Alike Value.SameButText left right) (renderer : Renderer)
    (literals : ∀ value ∈ left.values,
      renderer.literal value = .ok (renderer.literalText value)) :
    ∀ value ∈ right.values, renderer.literal value = .ok (renderer.literalText value) := by
  have values := alike.values
  generalize left.values = before, right.values = after at literals values ⊢
  induction values with
  | nil => simp
  | cons head _ ih =>
    obtain ⟨first, others⟩ := List.forall_mem_cons.mp literals
    refine List.forall_mem_cons.mpr ⟨?_, ih others⟩
    cases head with
    | same => exact first
    | text => rfl

end Template.Alike

/-! ## Statements -/

/-- An operator without any delimiter of literals or identifiers, and without backslashes. -/
def IsBareOperator (operator : String) : Prop :=
  ∀ c ∈ operator.toList, c ∉ ['\'', '"', Char.ofNat 0x60, '[', ']', '\\']

theorem IsBareOperator.settled {operator : String} (bare : IsBareOperator operator)
    (kind : DialectKind) : kind.lexis.Settled (" " ++ operator ++ " ") := by
  have delimiter : kind.lexis.opening ∈ ['\'', '"', Char.ofNat 0x60, '[', ']', '\\'] := by
    cases kind <;> decide
  have space : kind.lexis.Reads " ".toList _ := kind.lexis_fits.reads_basic rfl
  have plain : kind.lexis.Reads operator.toList (operator.toList.map .plain) := by
    apply Lexis.reads_plain
    intro c member
    refine ⟨?_, ?_⟩
    · rintro rfl
      exact bare _ member (by simp)
    · rintro rfl
      exact bare _ member delimiter
  rw [Lexis.Settled, String.toList_append, String.toList_append]
  exact ⟨_, (space.append plain).append space⟩

theorem DialectKind.regular_settled (kind : DialectKind) :
    kind.dialect.Regular kind.lexis.Settled :=
  kind.regular (fun _ basic => ⟨_, kind.lexis_fits.reads_basic basic⟩) kind.lexis_fits.reads_now

namespace Query

variable {query : Query}

/-- A literal statement of a guarded query ends outside any token and is read piece by piece, each
text as one literal that holds it. Other texts in its place give a statement that is read as the same
tokens, up to the texts of literals. -/
theorem scan_of_guarded {kind : DialectKind} (builtIn : query.dialect = kind.dialect)
    (guarded : query.Guarded IsBareOperator) (mode : query.parameterized = false)
    (statement : StatementKind) {sql : String} (rendered : (query.render statement).1 = .ok sql) :
    let template := (query.draft statement).pieces
    let tokens := template.flatMap (Piece.tokens kind.lexis query.renderer)
    sql = template.fill query.dialect (fun _ value => query.renderer.literalText value) ∧
      kind.lexis.scan sql = some tokens ∧
      ∀ other : Query, query.Alike Value.SameButText other → ∃ sql' tokens',
        (other.render statement).1 = .ok sql' ∧ kind.lexis.scan sql' = some tokens' ∧
        tokens'.map Token.masked = tokens.map Token.masked := by
  intro template tokens
  obtain ⟨complete, literals, written⟩ := query.of_render_literal mode rendered
  have regular : query.dialect.Regular kind.lexis.Settled := builtIn ▸ kind.regular_settled
  have fits : kind.lexis.Fits query.renderer.dialect :=
    (builtIn ▸ kind.lexis_fits : kind.lexis.Fits query.dialect)
  have booleans : ∀ value, isBasic (query.renderer.dialect.booleanLiteral value) :=
    regular.booleans
  have tidy : template.Tidy kind.lexis.Settled :=
    guarded.tidy_draft regular (fun _ bare => bare.settled kind) statement complete
  refine ⟨written, ?_, ?_⟩
  · rw [written]
    exact fits.scanFrom_fillFrom booleans tidy 0
  · intro other alike
    have drafts := alike.draft statement
    have same : query.renderer = other.renderer := by
      rw [renderer, renderer, alike.dialect, alike.table, alike.parameterized]
    have mode' : other.parameterized = false := alike.parameterized.symm.trans mode
    have complete' : (other.draft statement).failure = none := drafts.failure.symm.trans complete
    have literals' := drafts.pieces.literal_eq query.renderer literals
    rw [same] at literals'
    refine ⟨_, _, other.render_of_literals mode' complete' literals', ?_,
      drafts.pieces.masked_eq kind.lexis query.renderer⟩
    rw [same] at fits booleans ⊢
    exact fits.scanFrom_fillFrom booleans (drafts.pieces.tidy tidy) 0

/-- Quotation marks and backslashes of a pattern stay in its literal. -/
theorem scan_people :
    let query := (people .mysql (.text "x") "' OR 1=1 --\\").setParameterized false
    ∃ sql tokens, (query.render .full).1 = .ok sql ∧
      DialectKind.mysql.lexis.scan sql = some tokens ∧
      .literal "%' OR 1=1 --\\%" ∈ tokens ∧ .literal "\\" ∈ tokens := by
  intro query
  obtain ⟨complete, values, pattern, escape⟩ : (query.draft .full).failure = none ∧
      (query.draft .full).pieces.values =
        [.text "x", .text "%' OR 1=1 --\\%", .text "x"] ∧
      .hole (.text "%' OR 1=1 --\\%") ∈ (query.draft .full).pieces ∧
      .quoted "\\" ∈ (query.draft .full).pieces := by decide +kernel
  have literals : ∀ value ∈ (query.draft .full).pieces.values,
      query.renderer.literal value = .ok (query.renderer.literalText value) := by
    rw [values]
    simp only [List.forall_mem_cons]
    exact ⟨rfl, rfl, rfl, by simp⟩
  have rendered := query.render_of_literals rfl complete literals
  have greater : IsBareOperator ">" := by simp [IsBareOperator]
  have less : IsBareOperator "<" := by simp [IsBareOperator]
  have people := people_guarded greater less .mysql (.text "x") "' OR 1=1 --\\"
  have guarded : query.Guarded IsBareOperator :=
    ⟨people.table, people.conditions, people.projection, people.orders⟩
  obtain ⟨-, scanned, -⟩ := scan_of_guarded (rfl : _ = DialectKind.mysql.dialect) guarded rfl .full
    rendered
  refine ⟨_, _, rendered, scanned, ?_, ?_⟩
  · exact List.mem_flatMap.mpr ⟨_, pattern, List.mem_singleton_self _⟩
  · exact List.mem_flatMap.mpr ⟨_, escape, List.mem_singleton_self _⟩

end Query

end SqlQuery
