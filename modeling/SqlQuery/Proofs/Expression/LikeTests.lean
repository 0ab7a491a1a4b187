import SqlQuery.Proofs.Dialect.Lexis
import SqlQuery.Proofs.Expression.Reader
import SqlQuery.Proofs.Postgres.Segments
import SqlQuery.Proofs.Render.Markers
import SqlQuery.Proofs.Text.Like

/-! # Tests with LIKE

A rendered test has its operand in one of three forms, then the pattern, as a literal or through the
placeholder that it is bound to, and the escape if there is one. Given the text of the operand, a
reader gets all of this back from the statement and its bindings.

Where an engine has no LIKE that ignores case, only the operand is put in lower case. Such a test
agrees with a native one as long as the pattern has no capital.
-/

namespace SqlQuery

open Bindings (automaticName)
open Postgres (isNameCharacter isNameCharacter_automaticName)

/-- How a test treats case. -/
inductive LikeForm
  | plain
  /-- The operand is put in lower case, the pattern is not. -/
  | lowered
  /-- The operator ignores case. -/
  | native
  deriving DecidableEq, Repr

namespace LikeForm

def all : List LikeForm := [plain, lowered, native]

/-- What stands before the pattern. -/
def front (lowerFunction operand : String) : LikeForm → String
  | plain => operand ++ " like "
  | lowered => lowerFunction ++ "(" ++ operand ++ ") like "
  | native => operand ++ " ilike "

end LikeForm

/-- What a test says of its operand. -/
structure LikeTest where
  form : LikeForm
  pattern : String
  escape : Option Char
  deriving DecidableEq, Repr

namespace LikeTest

/-- Whether a test holds of a text. -/
def holds (test : LikeTest) (subject : String) : Bool :=
  match test.form with
  | .plain => Like.accepts test.escape test.pattern.toList subject.toList
  | .lowered => Like.accepts test.escape test.pattern.toList (Like.lowered subject.toList)
  | .native =>
    Like.accepts test.escape (Like.lowered test.pattern.toList) (Like.lowered subject.toList)

/-! ## Reading a test -/

def readForm? (lowerFunction operand : String) (sql : List Char) : Option (LikeForm × List Char) :=
  LikeForm.all.findSome? fun form =>
    ((form.front lowerFunction operand).toList.isPrefixOf? sql).map (form, ·)

/-- The name at the start of the tokens. -/
def leadingName : List Token → List Char
  | .plain c :: rest => if isNameCharacter c then c :: leadingName rest else []
  | _ => []

/-- Reads a pattern, and gives what comes after it. -/
def readPattern? (marker : String) (parameters : Parameters) :
    List Token → Option (String × List Token)
  | .literal text :: rest => some (text, rest)
  | tokens => do
    let rest ← Reader.after? marker tokens
    let name := leadingName rest
    match parameters.find? (String.ofList name) with
    | some (.text text) => some (text, rest.drop name.length)
    | _ => none

def readEscape? : List Token → Option (Option Char)
  | [] => some none
  | tokens =>
    match Reader.after? " escape " tokens with
    | some [.literal text] =>
      match text.toList with
      | [c] => some (some c)
      | _ => none
    | _ => none

/-- Reads a test of an operand, given its text. -/
def read? (lexis : Lexis) (dialect : Dialect) (parameters : Parameters) (operand sql : String) :
    Option LikeTest := do
  let (form, rest) ← readForm? dialect.lowerFunction operand sql.toList
  let tokens ← lexis.scanFrom .outside rest
  let (pattern, rest) ← readPattern? dialect.marker parameters tokens
  let escape ← readEscape? rest
  return ⟨form, pattern, escape⟩

/-- No text begins with an operand both in the function and without it: where the form without the
function ends, it has had a blank more. -/
theorem not_prefix_of_lowered {lowerFunction : List Char} (unspaced : ' ' ∉ lowerFunction)
    {operand word sql : List Char} (short : word.length < 8) (spaces : word.count ' ' = 2)
    (lowered : lowerFunction ++ '(' :: (operand ++ ") like ".toList) <+: sql) :
    ¬ operand ++ word <+: sql := by
  intro starts
  let body := lowerFunction ++ '(' :: (operand ++ ") like".toList)
  have inside : body <+: sql := by
    refine .trans ⟨[' '], ?_⟩ lowered
    simp [body]
  have shorter : (operand ++ word).length ≤ body.length := by
    simp only [body, List.length_append, List.length_cons]
    change operand.length + word.length ≤ lowerFunction.length + (operand.length + 6 + 1)
    omega
  have counted := (List.prefix_of_prefix_length_le starts inside shorter).sublist.count_le ' '
  have none : lowerFunction.count ' ' = 0 := List.count_eq_zero.mpr unspaced
  have one : ") like".toList.count ' ' = 1 := by decide
  simp only [body, List.count_append, List.count_cons, none, one, spaces] at counted
  simp at counted

/-- A text begins with one form of an operand at most. -/
theorem front_unique {lowerFunction operand : String} (unspaced : ' ' ∉ lowerFunction.toList)
    {sql : List Char} {first second : LikeForm}
    (starts : (first.front lowerFunction operand).toList <+: sql)
    (starts' : (second.front lowerFunction operand).toList <+: sql) : first = second := by
  have other {word : List Char} (short : word.length < 8) (spaces : word.count ' ' = 2)
      (lowered : (LikeForm.lowered.front lowerFunction operand).toList <+: sql) :
      ¬ operand.toList ++ word <+: sql := by
    refine not_prefix_of_lowered unspaced short spaces ?_
    simpa [LikeForm.front] using lowered
  have words {word word' : List Char} (shorter : word.length ≤ word'.length)
      (starts : operand.toList ++ word <+: sql) (starts' : operand.toList ++ word' <+: sql) :
      word <+: word' := by
    have both : operand.toList ++ word <+: operand.toList ++ word' := by
      refine List.prefix_of_prefix_length_le starts starts' ?_
      simpa using shorter
    exact (List.prefix_append_right_inj _).mp both
  have plain : (LikeForm.plain.front lowerFunction operand).toList =
      operand.toList ++ " like ".toList := String.toList_append
  have native : (LikeForm.native.front lowerFunction operand).toList =
      operand.toList ++ " ilike ".toList := String.toList_append
  match first, second with
  | .plain, .plain | .lowered, .lowered | .native, .native => rfl
  | .plain, .lowered => exact absurd (plain ▸ starts) (other (by decide) (by decide) starts')
  | .native, .lowered => exact absurd (native ▸ starts) (other (by decide) (by decide) starts')
  | .lowered, .plain => exact absurd (plain ▸ starts') (other (by decide) (by decide) starts)
  | .lowered, .native => exact absurd (native ▸ starts') (other (by decide) (by decide) starts)
  | .plain, .native =>
    exact absurd (words (by decide) (plain ▸ starts) (native ▸ starts')) (by decide)
  | .native, .plain =>
    exact absurd (words (by decide) (plain ▸ starts') (native ▸ starts)) (by decide)

theorem readForm?_front {lowerFunction : String} (unspaced : ' ' ∉ lowerFunction.toList)
    (operand : String) (form : LikeForm) (rest : List Char) :
    readForm? lowerFunction operand ((form.front lowerFunction operand).toList ++ rest) =
      some (form, rest) := by
  have known : form ∈ LikeForm.all := by cases form <;> decide
  obtain ⟨before, after, split, first⟩ := List.eq_append_cons_of_mem known
  rw [readForm?, List.findSome?_eq_some_iff]
  refine ⟨before, form, after, split, ?_, ?_⟩
  · rw [List.isPrefixOf?_eq_some_iff_append_eq.mpr rfl]
    rfl
  · intro earlier member
    rw [Option.map_eq_none_iff, Option.eq_none_iff_forall_not_mem]
    intro remaining read
    have starts := List.isPrefixOf?_eq_some_iff_append_eq.mp read
    obtain rfl := front_unique unspaced ⟨remaining, starts⟩ (List.prefix_append _ rest)
    contradiction

/-! ## Patterns and escapes -/

/-- A text that stands for a pattern: its literal, or a placeholder that it is bound to. -/
inductive Spells (dialect : Dialect) (parameters : Parameters) (pattern : String) : String → Prop
  | literal : Spells dialect parameters pattern (dialect.quoteLiteral pattern)
  | placeholder {index : Nat}
    (bound : parameters.find? (automaticName index) = some (.text pattern)) :
    Spells dialect parameters pattern (dialect.marker ++ automaticName index)

/-- How a test ends with its escape. -/
def escapeText (dialect : Dialect) : Option Char → String
  | none => ""
  | some c => " escape " ++ dialect.quoteLiteral (String.singleton c)

theorem escaped_eq (renderer : Renderer) (sql : String) (escape : Option Char) :
    renderer.escaped sql escape = sql ++ escapeText renderer.dialect escape := by
  cases escape with
  | none => exact String.append_empty.symm
  | some c => exact String.append_assoc ..

def escapeTokens : Option Char → List Token
  | none => []
  | some c => Reader.plain " escape " ++ [.literal (String.singleton c)]

theorem readEscape?_escapeTokens (escape : Option Char) :
    readEscape? (escapeTokens escape) = some escape := by
  cases escape with
  | none => rfl
  | some c =>
    have read := Reader.after?_append " escape " [.literal (String.singleton c)]
    rw [escapeTokens, readEscape?, read]
    · simp
    · rintro ⟨⟩

theorem leadingName_append {name : List Char} (named : ∀ c ∈ name, isNameCharacter c)
    (escape : Option Char) :
    leadingName (name.map .plain ++ escapeTokens escape) = name := by
  induction name with
  | nil => cases escape <;> rfl
  | cons c rest ih =>
    obtain ⟨first, others⟩ := List.forall_mem_cons.mp named
    rw [List.map_cons, List.cons_append, leadingName, if_pos first, ih others]

/-- Plain characters are no literal. -/
theorem plain_append_ne_literal {text : String} (given : text.toList ≠ []) (rest later : List Token)
    (literal : String) : Reader.plain text ++ rest ≠ .literal literal :: later := by
  obtain ⟨c, others, split⟩ := List.exists_cons_of_ne_nil given
  rw [Reader.plain, split]
  simp

theorem readPattern?_placeholder {marker pattern : String} {parameters : Parameters} {index : Nat}
    (bound : parameters.find? (automaticName index) = some (.text pattern))
    (escape : Option Char) :
    readPattern? marker parameters
        (Reader.plain (marker ++ automaticName index) ++ escapeTokens escape) =
      some (pattern, escapeTokens escape) := by
  let name := (automaticName index).toList
  have split : Reader.plain (marker ++ automaticName index) ++ escapeTokens escape =
      Reader.plain marker ++ (name.map .plain ++ escapeTokens escape) := by
    simp [Reader.plain, name]
  rw [readPattern?]
  · rw [split, Reader.after?_append]
    simp only [Option.bind_eq_bind, Option.bind_some,
      leadingName_append (isNameCharacter_automaticName index) escape, name, String.ofList_toList,
      bound]
    rw [List.drop_left' (by simp)]
  · intro literal later
    refine plain_append_ne_literal ?_ _ later literal
    simp [automaticName]

theorem broken_escapeText (dialect : Dialect) (escape : Option Char) :
    ∀ c ∈ (escapeText dialect escape).toList.head?, isBreak c := by
  cases escape with
  | none => nofun
  | some c =>
    intro first member
    rw [escapeText, String.toList_append] at member
    cases member
    rfl

section

variable {lexis : Lexis} {dialect : Dialect} (fits : lexis.Fits dialect)

include fits

theorem scanFrom_escapeText (escape : Option Char) :
    lexis.scanFrom .outside (escapeText dialect escape).toList = some (escapeTokens escape) := by
  cases escape with
  | none => rfl
  | some c =>
    have ended : ∀ c ∈ ([] : List Char).head?, isBreak c := nofun
    have literal := fits.scanFrom_quoteLiteral (String.singleton c) ended
    rw [List.append_nil] at literal
    rw [escapeText, String.toList_append, fits.reads_basic rfl, literal]
    rfl

/-- A pattern is read back, and the escape after it. -/
theorem exists_tokens_of_spells {parameters : Parameters} {pattern text : String}
    (marked : ∀ c ∈ dialect.marker.toList, c ≠ '\'' ∧ c ≠ lexis.opening)
    (spells : Spells dialect parameters pattern text) (escape : Option Char) :
    ∃ tokens, lexis.scanFrom .outside (text ++ escapeText dialect escape).toList = some tokens ∧
      readPattern? dialect.marker parameters tokens = some (pattern, escapeTokens escape) := by
  rw [String.toList_append]
  cases spells with
  | literal =>
    refine ⟨.literal pattern :: escapeTokens escape, ?_, rfl⟩
    rw [fits.scanFrom_quoteLiteral pattern (broken_escapeText dialect escape),
      scanFrom_escapeText fits]
    rfl
  | @placeholder index bound =>
    refine ⟨_, ?_, readPattern?_placeholder bound escape⟩
    have marker := Lexis.reads_plain marked
    have name : lexis.Reads (automaticName index).toList _ :=
      fits.reads_basic (isBasic_append rfl (isBasic_toString index))
    rw [String.toList_append, marker.append name, scanFrom_escapeText fits]
    simp [Reader.plain]

/-- A test is read back from its text. -/
theorem read?_eq {parameters : Parameters} {pattern text : String}
    (marked : ∀ c ∈ dialect.marker.toList, c ≠ '\'' ∧ c ≠ lexis.opening)
    (unspaced : ' ' ∉ dialect.lowerFunction.toList)
    (spells : Spells dialect parameters pattern text) (operand : String) (form : LikeForm)
    (escape : Option Char) :
    read? lexis dialect parameters operand
        (form.front dialect.lowerFunction operand ++ text ++ escapeText dialect escape) =
      some ⟨form, pattern, escape⟩ := by
  obtain ⟨tokens, scanned, read⟩ := exists_tokens_of_spells fits marked spells escape
  rw [String.append_assoc, read?, String.toList_append, readForm?_front unspaced]
  simp only [Option.bind_eq_bind, Option.bind_some, scanned, read, readEscape?_escapeTokens]
  rfl

end

end LikeTest

/-! ## Rendered tests -/

theorem DialectKind.plain_marker (kind : DialectKind) :
    ∀ c ∈ kind.dialect.marker.toList, c ≠ '\'' ∧ c ≠ kind.lexis.opening := by
  cases kind <;> simp [DialectKind.dialect, DialectKind.lexis]

theorem DialectKind.unspaced_lowerFunction (kind : DialectKind) :
    ' ' ∉ kind.dialect.lowerFunction.toList := by
  have lower : kind.dialect.lowerFunction = "lower" := by cases kind <;> rfl
  rw [lower]
  decide

namespace LikeTest

theorem render_like (renderer : Renderer) (operand : Expression) (pattern : String)
    (mode : MatchMode) (escape : Option Char) (ignoreCase : Bool) :
    (Expression.like operand pattern mode escape ignoreCase).render renderer = (do
      let text ← operand.render renderer
      let spelled ← renderer.pattern pattern mode
      return renderer.escaped
        (LikeForm.front renderer.dialect.lowerFunction text
          (if ignoreCase then .lowered else .plain) ++ spelled) escape) := by
  rw [Expression.render]
  cases ignoreCase <;> simp [LikeForm.front, Renderer.lowered, String.append_assoc]

theorem render_ilike (renderer : Renderer) (operand : Expression) (pattern : String)
    (mode : MatchMode) (escape : Option Char) :
    (Expression.ilike operand pattern mode escape).render renderer = (do
      let text ← operand.render renderer
      let spelled ← renderer.pattern pattern mode
      return renderer.escaped
        (LikeForm.front renderer.dialect.lowerFunction text
          (if renderer.dialect.nativeIlike then .native else .lowered) ++ spelled) escape) := by
  rw [Expression.render]
  cases renderer.dialect.nativeIlike <;>
    simp [LikeForm.front, Renderer.lowered, String.append_assoc]

/-- A renderer with the bindings that it starts from, and a scanner of what it writes. -/
structure Setting where
  renderer : Renderer
  lexis : Lexis
  before : Bindings
  fits : lexis.Fits renderer.dialect
  marked : ∀ c ∈ renderer.dialect.marker.toList, c ≠ '\'' ∧ c ≠ lexis.opening
  unspaced : ' ' ∉ renderer.dialect.lowerFunction.toList
  marker_eq : before.marker = renderer.dialect.marker

namespace Setting

/-- A known dialect before anything is bound. -/
def ofKind (kind : DialectKind) (table : Option Table) (parameterized : Bool) : Setting where
  renderer := { dialect := kind.dialect, table, parameterized }
  lexis := kind.lexis
  before := { marker := kind.dialect.marker }
  fits := kind.lexis_fits
  marked := kind.plain_marker
  unspaced := kind.unspaced_lowerFunction
  marker_eq := rfl

variable (setting : Setting)

def Renders (operand : Expression) : Prop :=
  ∃ text between, (operand.render setting.renderer).run setting.before = (.ok text, between)

/-- What an expression is rendered to is read as a test of an operand. -/
def Reads (operand expression : Expression) (test : LikeTest) : Prop :=
  ∃ text between sql after,
    (operand.render setting.renderer).run setting.before = (.ok text, between) ∧
    (expression.render setting.renderer).run setting.before = (.ok sql, after) ∧
    read? setting.lexis setting.renderer.dialect after.values text sql = some test

theorem exists_run_pattern {between : Bindings}
    (marker_eq : between.marker = setting.renderer.dialect.marker) (pattern : String)
    (mode : MatchMode) :
    ∃ text after, (setting.renderer.pattern pattern mode).run between = (.ok text, after) ∧
      Spells setting.renderer.dialect after.values (mode.pattern pattern) text := by
  rw [Renderer.pattern]
  cases parameterized : setting.renderer.parameterized with
  | true =>
    let value : Value := .text (mode.pattern pattern)
    have placeholder : (between.bind value).1 =
        setting.renderer.dialect.marker ++ automaticName between.nextIndex :=
      congrArg (· ++ _) marker_eq
    refine ⟨_, _, Renderer.run_value_parameterized parameterized value between, ?_⟩
    rw [placeholder]
    refine .placeholder ?_
    rw [Bindings.bind, Bindings.bindNamed, Dictionary.find?_insert, if_pos rfl]
  | false =>
    refine ⟨setting.renderer.dialect.quoteLiteral (mode.pattern pattern), between, ?_, .literal⟩
    rw [Renderer.value, parameterized]
    rfl

variable {operand : Expression}

/-- A node that is rendered as the operand in a form, the pattern and the escape is read as a test of
that form. -/
theorem reads_of_render (rendered : setting.Renders operand) {node : Expression}
    {pattern : String} {mode : MatchMode} {escape : Option Char} (form : LikeForm)
    (node_eq : node.render setting.renderer = (do
      let text ← operand.render setting.renderer
      let spelled ← setting.renderer.pattern pattern mode
      return setting.renderer.escaped
        (form.front setting.renderer.dialect.lowerFunction text ++ spelled) escape)) :
    setting.Reads operand node ⟨form, mode.pattern pattern, escape⟩ := by
  obtain ⟨text, between, ran⟩ := rendered
  have kept : between.marker = setting.renderer.dialect.marker := by
    have keeps := operand.keepsMarker_render setting.renderer setting.before
    rw [ran] at keeps
    exact keeps.trans setting.marker_eq
  obtain ⟨spelled, after, patterned, spells⟩ := setting.exists_run_pattern kept pattern mode
  let sql := setting.renderer.escaped
    (form.front setting.renderer.dialect.lowerFunction text ++ spelled) escape
  refine ⟨text, between, sql, after, ran, ?_, ?_⟩
  · rw [node_eq, Rendering.run_bind_ok ran, Rendering.run_bind_ok patterned]
    rfl
  · simp only [sql, escaped_eq]
    exact read?_eq setting.fits setting.marked setting.unspaced spells text form escape

theorem reads_ilike (rendered : setting.Renders operand) (pattern : String) (mode : MatchMode)
    (escape : Option Char) :
    setting.Reads operand (.ilike operand pattern mode escape)
      ⟨if setting.renderer.dialect.nativeIlike then .native else .lowered, mode.pattern pattern,
        escape⟩ := by
  exact setting.reads_of_render rendered _ (render_ilike ..)

end Setting

/-! ## Emulated and native tests -/

/-- The wildcards of a mode are no capitals. -/
theorem isUpper_pattern_iff (mode : MatchMode) (pattern : String) :
    (∀ c ∈ (mode.pattern pattern).toList, c.isUpper = false) ↔
      ∀ c ∈ pattern.toList, c.isUpper = false := by
  have wildcard : '%'.isUpper = false := rfl
  cases mode <;> simp [MatchMode.pattern, or_imp, forall_and, wildcard]

section

variable {pattern : String} {escape : Option Char} (unlettered : ∀ c ∈ escape, c.isAlpha = false)

include unlettered

theorem holds_lowered_iff :
    (∀ subject, (⟨.lowered, pattern, escape⟩ : LikeTest).holds subject =
        (⟨.native, pattern, escape⟩ : LikeTest).holds subject) ↔
      Like.parts? escape pattern.toList = none ∨ ∀ c ∈ pattern.toList, c.isUpper = false := by
  rw [← Like.accepts_lowered_iff unlettered]
  constructor
  · intro agree subject
    simpa [holds] using agree (String.ofList subject)
  · exact fun agree subject => agree subject.toList

/-- For one `ilike` on the same operand, an engine without and one with an operator that ignores case
find the same subjects if and only if the pattern has no capital, or is not well formed once it has
the wildcards of its mode. With a capital the engine without the operator finds none. -/
theorem emulated_agrees_iff {operand : Expression} (mode : MatchMode) (emulation native : Setting)
    (emulated : emulation.renderer.dialect.nativeIlike = false)
    (natively : native.renderer.dialect.nativeIlike = true)
    (rendered : emulation.Renders operand) (rendered' : native.Renders operand) :
    ∃ test test', emulation.Reads operand (.ilike operand pattern mode escape) test ∧
      native.Reads operand (.ilike operand pattern mode escape) test' ∧
      ((∀ subject, test.holds subject = test'.holds subject) ↔
        Like.parts? escape (mode.pattern pattern).toList = none ∨
          ∀ c ∈ pattern.toList, c.isUpper = false) ∧
      ∀ c ∈ pattern.toList, c.isUpper = true → ∀ subject, test.holds subject = false := by
  have reads := emulation.reads_ilike rendered pattern mode escape
  have reads' := native.reads_ilike rendered' pattern mode escape
  rw [emulated] at reads
  rw [natively] at reads'
  refine ⟨_, _, reads, reads', ?_, ?_⟩
  · rw [← isUpper_pattern_iff mode]
    exact holds_lowered_iff unlettered
  · intro c member upper subject
    have found : c ∈ (mode.pattern pattern).toList := by
      cases mode <;> simp [MatchMode.pattern, member]
    exact Like.accepts_lowered_of_isUpper unlettered found upper subject.toList

end

/-- A pattern in lower case, on a mapped field, bound by one engine and inlined by the other. -/
theorem emulated_agrees_on_jo :
    let table : Table := ⟨"people", [⟨"name", "full name"⟩]⟩
    let node := Expression.ilike (.field "name") "jo!_" .start (some '!')
    ∃ test test', (Setting.ofKind .mysql table true).Reads (.field "name") node test ∧
      (Setting.ofKind .postgres table false).Reads (.field "name") node test' ∧
      ∀ subject, test.holds subject = test'.holds subject := by
  intro table node
  have unlettered : ∀ c ∈ some '!', c.isAlpha = false := by
    rintro c ⟨⟩
    rfl
  have rendered (setting : Setting) : setting.Renders (.field "name") := ⟨_, _, rfl⟩
  obtain ⟨test, test', reads, reads', agree, -⟩ := @emulated_agrees_iff "jo!_" (some '!') unlettered
    _ .start (.ofKind .mysql table true) (.ofKind .postgres table false) rfl rfl (rendered _)
    (rendered _)
  exact ⟨test, test', reads, reads', agree.mpr (.inr (by simp))⟩

/-- A capital in the pattern is found by the native operator only. -/
theorem emulated_misses_capital :
    let node := Expression.ilike (.field "name") "Jo" .start none
    ∃ test test', (Setting.ofKind .generic none true).Reads (.field "name") node test ∧
      (Setting.ofKind .postgres none true).Reads (.field "name") node test' ∧
      test.holds "John" = false ∧ test'.holds "John" = true := by
  intro node
  refine ⟨⟨.lowered, "Jo%", none⟩, ⟨.native, "Jo%", none⟩, ?_, ?_, by decide, by decide⟩
  · exact Setting.reads_ilike _ ⟨_, _, rfl⟩ "Jo" .start none
  · exact Setting.reads_ilike _ ⟨_, _, rfl⟩ "Jo" .start none

end LikeTest

end SqlQuery
