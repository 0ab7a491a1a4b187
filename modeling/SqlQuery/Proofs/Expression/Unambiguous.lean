import SqlQuery.Proofs.Expression.Reader
import SqlQuery.Proofs.Query.Literals

/-! # Which conditions share a text

Conditions on mapped fields hold no value, so both modes write them alike. Such a text is scanned
into tokens and read back as the regrouped condition. Hence two conditions have the same text if and
only if they are regrouped to the same condition, provided that no two fields have columns whose
quoted names are equal.
-/

namespace SqlQuery

open Draft (text)
open Reader

/-- A condition on mapped fields, without values. -/
inductive Expression.IsPredicate (table : Option Table) : Expression → Prop
  | field {name : String} (mapped : IsMapped table name) : IsPredicate table (.field name)
  | not {operand : Expression} (operands : IsPredicate table operand) :
    IsPredicate table (.not operand)
  | notNull {operand : Expression} (operands : IsPredicate table operand) :
    IsPredicate table (.notNull operand)
  | null {operand : Expression} (operands : IsPredicate table operand) :
    IsPredicate table (.null operand)
  | between {operand lower upper : Expression} (operands : IsPredicate table operand)
    (lowers : IsPredicate table lower) (uppers : IsPredicate table upper) :
    IsPredicate table (.between operand lower upper)
  | inValues {operand : Expression} {values : List Expression}
    (operands : IsPredicate table operand) (some : values ≠ [])
    (members : ∀ member ∈ values, IsPredicate table member) :
    IsPredicate table (.inValues operand values)
  | simple {left right : Expression} {operator : String} (known : operator ∈ comparisons)
    (lefts : IsPredicate table left) (rights : IsPredicate table right) :
    IsPredicate table (.simple left operator right)
  | junction {members : List Expression} (connective : Connective) (two : 2 ≤ members.length)
    (each : ∀ member ∈ members, IsPredicate table member) :
    IsPredicate table (.junction connective members)

theorem Expression.IsPredicate.guarded {table : Option Table} {expression : Expression}
    (predicate : expression.IsPredicate table) : expression.Guarded table IsBareOperator := by
  induction predicate with
  | field mapped => exact .field mapped
  | not _ ih => exact .not ih
  | notNull _ ih => exact .notNull ih
  | null _ ih => exact .null ih
  | between _ _ _ operands lowers uppers => exact .between operands lowers uppers
  | inValues _ _ _ operands members => exact .inValues operands members
  | simple known _ _ lefts rights =>
    have bare : comparisons.all (fun operator => operator.toList.all fun c =>
        c ∉ ['\'', '"', Char.ofNat 0x60, '[', ']', '\\']) = true := by decide
    simp only [List.all_eq_true, decide_eq_true_eq] at bare
    exact .simple (bare _ known) lefts rights
  | junction connective _ _ each => exact .junction connective each

/-! ## Drafts without values -/

/-- A draft without failure and without values that is scanned into given tokens. -/
structure Draft.Spells (kind : DialectKind) (draft : Draft) (tokens : List Token) : Prop where
  complete : draft.failure = none
  values : draft.pieces.values = []
  tokens : ∀ renderer : Renderer, renderer.dialect = kind.dialect →
    draft.pieces.flatMap (Piece.tokens kind.lexis renderer) = tokens

theorem Template.run_of_values_eq_nil (renderer : Renderer) {template : Template}
    (values : template.values = []) (write : Nat → Value → String) (index : Nat)
    (bindings : Bindings) :
    (template.render renderer).run bindings =
      (.ok (template.fillFrom renderer.dialect write index), bindings) := by
  induction template with
  | nil => rfl
  | cons piece rest ih =>
    cases piece with
    | sql text =>
      rw [Template.render, Piece.render, pure_bind, Rendering.run_bind_ok (ih values)]
      rfl
    | name identifier =>
      rw [Template.render, Piece.render, pure_bind, Rendering.run_bind_ok (ih values)]
      rfl
    | quoted text =>
      rw [Template.render, Piece.render, pure_bind, Rendering.run_bind_ok (ih values)]
      rfl
    | hole value => simp at values
    | dropped value => simp at values

namespace Draft.Spells

variable {kind : DialectKind} {draft draft' : Draft} {tokens tokens' : List Token}

theorem append (spells : draft.Spells kind tokens) (spells' : draft'.Spells kind tokens') :
    (draft ++ draft').Spells kind (tokens ++ tokens') := by
  refine ⟨failure_append.mpr ⟨spells.complete, spells'.complete⟩, ?_, ?_⟩
  · rw [values_append spells.complete]
    exact List.append_eq_nil_iff.mpr ⟨spells.values, spells'.values⟩
  · intro renderer same
    rw [pieces_append spells.complete, List.flatMap_append, spells.tokens renderer same,
      spells'.tokens renderer same]

theorem text {sql : String} (reads : kind.lexis.Reads sql.toList (plain sql)) :
    (Draft.text sql).Spells kind (plain sql) := by
  refine ⟨rfl, rfl, ?_⟩
  intro renderer _
  rw [Draft.text, piece, List.flatMap_singleton, Piece.tokens, reads.tokens_eq]

theorem basic {sql : String} (basic : isBasic sql) : (Draft.text sql).Spells kind (plain sql) :=
  text (kind.lexis_fits.reads_basic basic)

theorem operator {operator : String} (known : operator ∈ comparisons) :
    (Draft.text (" " ++ operator ++ " ")).Spells kind (plain (" " ++ operator ++ " ")) := by
  have bare : comparisons.all (fun operator => (" " ++ operator ++ " ").toList.all fun c =>
      c ≠ '\'' ∧ c ≠ kind.lexis.opening) = true := by
    cases kind <;> decide
  simp only [List.all_eq_true, decide_eq_true_eq] at bare
  exact text (Lexis.reads_plain (bare operator known))

theorem name (identifier : String) : (Draft.piece (.name identifier)).Spells kind
    (kind.lexis.tokens (kind.dialect.quote identifier)) := by
  refine ⟨rfl, rfl, ?_⟩
  intro renderer same
  rw [piece, List.flatMap_singleton, Piece.tokens, same]

end Draft.Spells

/-! ## Names of columns -/

/-- An identifier is scanned as the name that its quoted form holds. -/
theorem DialectKind.exists_tokens_quote (kind : DialectKind) (identifier : String) : ∃ name,
    kind.lexis.tokens (kind.dialect.quote identifier) = [.identifier name] ∧
      kind.dialect.quote identifier =
        Text.quoteWith kind.dialect.openQuote kind.dialect.closeQuote name := by
  obtain ⟨body, written⟩ := kind.dialect.exists_quote_eq identifier
  have quoted : kind.dialect.quote identifier = Text.quoteWith kind.dialect.openQuote
      kind.dialect.closeQuote (String.ofList body) := by
    rw [Text.quoteWith, String.toList_ofList, ← written, String.ofList_toList]
  refine ⟨String.ofList body, ?_, quoted⟩
  have scanned : kind.lexis.scan (kind.dialect.quote identifier) =
      some [.identifier (String.ofList body)] := by
    have whole := @Lexis.Fits.scanFrom_quoteCharacters _ _ kind.lexis_fits body [] (by simp)
    rwa [List.append_nil, ← written] at whole
  rw [Lexis.tokens, scanned, Option.getD_some]

/-- No two fields have columns that are quoted alike. -/
def Table.Distinguishes (table : Table) (dialect : Dialect) : Prop :=
  ∀ field field' column column', table.findColumn? field = some column →
    table.findColumn? field' = some column' →
      column.quotedName dialect = column'.quotedName dialect → field = field'

/-- The field whose column has a quoted name that holds `name`. -/
def Table.resolve? (table : Table) (dialect : Dialect) (name : String) : Option String :=
  (table.columns.find? fun column =>
    table.findColumn? column.field = some column ∧
      column.quotedName dialect = Text.quoteWith dialect.openQuote dialect.closeQuote name).map
    (·.field)

theorem Table.Distinguishes.resolve?_eq {table : Table} {dialect : Dialect}
    (distinct : table.Distinguishes dialect) {field name : String} {column : Column}
    (found : table.findColumn? field = some column)
    (quoted : column.quotedName dialect =
      Text.quoteWith dialect.openQuote dialect.closeQuote name) :
    table.resolve? dialect name = some field := by
  have same : column.field = field := by
    have := List.find?_some found
    simpa using this
  have listed : column ∈ table.columns := List.mem_of_find?_eq_some found
  rw [resolve?]
  cases search : table.columns.find? _ with
  | none =>
    have none := List.find?_eq_none.mp search column listed
    simp [same, found, quoted] at none
  | some column' =>
    have both := List.find?_some search
    simp only [decide_eq_true_eq] at both
    have equal := distinct _ _ _ _ both.1 found (both.2.trans quoted.symm)
    rw [Option.map_some, equal]

/-! ## Conditions are read back -/

/-- A condition that holds no values, and whose tokens are read as its regrouped form. -/
def Expression.IsLegible (kind : DialectKind) (table : Table) (expression : Expression) : Prop :=
  ∃ tokens, (expression.draft kind.dialect (some table)).Spells kind tokens ∧
    Legible kind.dialect.parenthesizesNot (table.resolve? kind.dialect) tokens
      (expression.regroup kind.dialect.parenthesizesNot)

section

variable {kind : DialectKind} {table : Table}

theorem Expression.legible_join {separator : String} (separates : IsSeparator separator)
    (basic : isBasic separator) {members : List Expression} (some : members ≠ [])
    (each : ∀ member ∈ members, member.IsLegible kind table) :
    ∃ tokens, (Draft.join separator (draftAll kind.dialect table members)).Spells kind tokens ∧
      LegibleItems kind.dialect.parenthesizesNot (table.resolve? kind.dialect) separator tokens
        (regroupAll kind.dialect.parenthesizesNot members) := by
  induction members with
  | nil => contradiction
  | cons first rest ih =>
    obtain ⟨⟨tokens, spells, legible⟩, others⟩ := List.forall_mem_cons.mp each
    cases rest with
    | nil => exact ⟨tokens, spells, .single separates legible⟩
    | cons second rest =>
      obtain ⟨items, spells', legible'⟩ := ih (by simp) others
      exact ⟨_, (spells.append (.basic basic)).append spells', .cons separates legible legible'⟩

theorem Expression.IsPredicate.legible (distinct : table.Distinguishes kind.dialect)
    {expression : Expression} (predicate : expression.IsPredicate (some table)) :
    expression.IsLegible kind table := by
  induction predicate with
  | @field name mapped =>
    obtain ⟨column, found⟩ := Option.isSome_iff_exists.mp mapped
    obtain ⟨identifier, scanned, quoted⟩ := kind.exists_tokens_quote column.name
    refine ⟨[.identifier identifier], ?_, .field (distinct.resolve?_eq found quoted)⟩
    have draft : Expression.draft kind.dialect (some table) (.field name) =
        .piece (.name column.name) := by
      rw [Expression.draft, Draft.field, found]
    rw [draft, ← scanned]
    exact .name column.name
  | @not operand _ ih =>
    obtain ⟨tokens, spells, legible⟩ := ih
    rw [IsLegible]
    cases closed : kind.dialect.parenthesizesNot with
    | true =>
      rw [closed] at legible
      refine ⟨_, ?_, legible.closedNot⟩
      rw [draft, if_pos closed]
      exact ((Draft.Spells.basic rfl).append spells).append (.basic rfl)
    | false =>
      rw [closed] at legible
      refine ⟨_, ?_, legible.openNot⟩
      rw [draft, closed]
      exact (Draft.Spells.basic rfl).append spells
  | notNull _ ih =>
    obtain ⟨tokens, spells, legible⟩ := ih
    exact ⟨_, spells.append (.basic rfl), legible.notNull⟩
  | null _ ih =>
    obtain ⟨tokens, spells, legible⟩ := ih
    exact ⟨_, spells.append (.basic rfl), legible.null⟩
  | between _ _ _ operands lowers uppers =>
    obtain ⟨tokens, spells, legible⟩ := operands
    obtain ⟨lower, spells', legible'⟩ := lowers
    obtain ⟨upper, spells'', legible''⟩ := uppers
    refine ⟨_, ?_, legible.between legible' legible''⟩
    exact (((spells.append (.basic rfl)).append spells').append (.basic rfl)).append spells''
  | @inValues operand values _ some _ operands members =>
    obtain ⟨tokens, spells, legible⟩ := operands
    obtain ⟨items, spells', legible'⟩ := legible_join isSeparator_comma rfl some members
    have given : values.isEmpty = false := by simpa using some
    have regrouped : (fun outer => (Expression.inValues operand values).regroup
        kind.dialect.parenthesizesNot outer) = fun outer =>
          operand.regroup kind.dialect.parenthesizesNot fun inner =>
            outer (.inValues inner (regroupAll kind.dialect.parenthesizesNot values)) := by
      funext outer
      rw [regroup, given]
      rfl
    refine ⟨_, ?_, regrouped ▸ legible.inValues legible'⟩
    rw [draft, given, Draft.append_assoc, Draft.append_assoc, ← Draft.append_assoc (Draft.text _)]
    exact spells.append (((Draft.Spells.basic rfl).append spells').append (.basic rfl))
  | @simple left right operator known _ _ lefts rights =>
    obtain ⟨tokens, spells, legible⟩ := lefts
    obtain ⟨tokens', spells', legible'⟩ := rights
    refine ⟨_, ?_, legible.simple known legible'⟩
    exact ((((Draft.Spells.basic rfl).append spells).append (.operator known)).append
      spells').append (.basic rfl)
  | @junction members connective two _ each =>
    obtain _ | ⟨first, _ | ⟨second, rest⟩⟩ := members
    · contradiction
    · contradiction
    obtain ⟨⟨tokens, spells, legible⟩, others⟩ := List.forall_mem_cons.mp each
    have basic : isBasic (" " ++ connective.operator ++ " ") := by cases connective <;> rfl
    obtain ⟨items, spells', legible'⟩ :=
      legible_join (isSeparator_connective connective) basic (by simp) others
    refine ⟨_, ?_, legible.junction legible'⟩
    have written : draft kind.dialect (some table) (.junction connective (first :: second :: rest)) =
        text "(" ++ (first.draft kind.dialect table ++ text (" " ++ connective.operator ++ " ") ++
          .join (" " ++ connective.operator ++ " ")
            (draftAll kind.dialect table (second :: rest))) ++ text ")" := rfl
    rw [written, ← Draft.append_assoc, ← Draft.append_assoc]
    exact ((((Draft.Spells.basic rfl).append spells).append (.basic basic)).append
      spells').append (.basic rfl)

/-! ## Texts of conditions -/

/-- The text of a condition that holds no values. -/
def Expression.conditionText (kind : DialectKind) (table : Table) (expression : Expression) : String :=
  (expression.draft kind.dialect (some table)).pieces.fill kind.dialect
    fun _ value => Renderer.literalText { dialect := kind.dialect } value

/-- Both modes write a condition alike and bind nothing. -/
theorem Expression.IsLegible.run_render {expression : Expression}
    (legible : expression.IsLegible kind table) (mode : Bool) (bindings : Bindings) :
    (expression.render { dialect := kind.dialect, table := table, parameterized := mode }).run
      bindings = (.ok (expression.conditionText kind table), bindings) := by
  obtain ⟨_, spells, -⟩ := legible
  have run := Template.run_of_values_eq_nil
    { dialect := kind.dialect, table := table, parameterized := mode } spells.values
    (fun _ value => Renderer.literalText { dialect := kind.dialect } value) 0 bindings
  rw [Expression.render_eq, Draft.render, Rendering.run_bind_ok run, spells.complete]
  rfl

/-- The text of a condition decides its regrouped form. -/
theorem Expression.regroup_eq_of_conditionText_eq {left right : Expression}
    (distinct : table.Distinguishes kind.dialect) (lefts : left.IsPredicate (some table))
    (rights : right.IsPredicate (some table))
    (same : left.conditionText kind table = right.conditionText kind table) :
    left.regroup kind.dialect.parenthesizesNot id =
      right.regroup kind.dialect.parenthesizesNot id := by
  have read {expression : Expression} (predicate : expression.IsPredicate (some table)) :
      ∃ tokens, kind.lexis.scan (expression.conditionText kind table) = some tokens ∧
        Gives (operand? kind.dialect.parenthesizesNot (table.resolve? kind.dialect) · tokens)
          (expression.regroup kind.dialect.parenthesizesNot id, []) := by
    obtain ⟨tokens, spells, legible⟩ := predicate.legible distinct
    have regular := kind.regular_settled
    have tidy := predicate.guarded.tidy_draft regular (fun _ bare => bare.settled kind)
      spells.complete
    have scanned := @Lexis.Fits.scanFrom_fillFrom _ { dialect := kind.dialect } kind.lexis_fits
      regular.booleans _ tidy 0
    rw [spells.tokens _ rfl] at scanned
    have whole := @Legible.ended _ _ _ _ legible [] rfl
    rw [List.append_nil] at whole
    exact ⟨tokens, scanned, whole⟩
  obtain ⟨tokens, scanned, whole⟩ := read lefts
  obtain ⟨tokens', scanned', whole'⟩ := read rights
  rw [same, scanned'] at scanned
  obtain rfl := Option.some.inj scanned
  exact (Prod.mk.inj (whole.unique whole')).1

end

/-- Two conditions have the same text, in either mode, if and only if they are regrouped to the same
condition. So a text has one parted condition at most. -/
theorem Expression.texts_eq_iff_regroup_eq {kind : DialectKind} {table : Table}
    (distinct : table.Distinguishes kind.dialect) {left right : Expression}
    (lefts : left.IsPredicate (some table)) (rights : right.IsPredicate (some table))
    (mode mode' : Bool) (bindings bindings' : Bindings) :
    ∃ sql sql',
      (left.render { dialect := kind.dialect, table := table, parameterized := mode }).run bindings =
        (.ok sql, bindings) ∧
      (right.render { dialect := kind.dialect, table := table, parameterized := mode' }).run
        bindings' = (.ok sql', bindings') ∧
      (sql = sql' ↔ left.regroup kind.dialect.parenthesizesNot id =
        right.regroup kind.dialect.parenthesizesNot id) ∧
      (left.Parted kind.dialect.parenthesizesNot → right.Parted kind.dialect.parenthesizesNot →
        sql = sql' → left = right) := by
  have decides := regroup_eq_of_conditionText_eq distinct lefts rights
  refine ⟨_, _, (lefts.legible distinct).run_render mode bindings,
    (rights.legible distinct).run_render mode' bindings', ⟨decides, ?_⟩, ?_⟩
  · intro same
    rw [conditionText, conditionText, ← left.draft_regroup_id, same, right.draft_regroup_id]
  · intro parted parted' same
    rw [← parted.regroup_eq.1, ← parted'.regroup_eq.1, decides same]

namespace Table

theorem distinguishes_of_forall {table : Table} {dialect : Dialect}
    (distinct : ∀ column ∈ table.columns, ∀ column' ∈ table.columns,
      column.quotedName dialect = column'.quotedName dialect → column.field = column'.field) :
    table.Distinguishes dialect := by
  intro field field' column column' found found' same
  have named : column.field = field := by simpa using List.find?_some found
  have named' : column'.field = field' := by simpa using List.find?_some found'
  rw [← named, ← named']
  exact distinct _ (List.mem_of_find?_eq_some found) _ (List.mem_of_find?_eq_some found') same

/-- A table with three columns. -/
def abc : Table :=
  { name := "t", columns := [⟨"a", "a"⟩, ⟨"b", "b"⟩, ⟨"c", "c"⟩] }

theorem distinguishes_abc (kind : DialectKind) : abc.Distinguishes kind.dialect := by
  apply distinguishes_of_forall
  cases kind <;> decide +kernel

/-- Two fields whose columns have different names, one of them in quotation marks. -/
def quotedTwice : Table :=
  { name := "t", columns := [⟨"a", "x"⟩, ⟨"b", "\"x\""⟩] }

end Table

/-- A negation in parentheses is told apart from one that takes the test after it. -/
theorem Expression.negated_test_told_apart :
    let left : Expression := .null (.not (.field "a"))
    let right : Expression := .not (.null (.field "a"))
    ∃ sql sql',
      (left.render { dialect := DialectKind.mysql.dialect, table := Table.abc }).run ⟨":", ∅⟩ =
        (.ok sql, ⟨":", ∅⟩) ∧
      (right.render { dialect := DialectKind.mysql.dialect, table := Table.abc }).run ⟨":", ∅⟩ =
        (.ok sql', ⟨":", ∅⟩) ∧ sql ≠ sql' := by
  intro left right
  have lefts : left.IsPredicate (some Table.abc) := .null (.not (.field rfl))
  have rights : right.IsPredicate (some Table.abc) := .not (.null (.field rfl))
  obtain ⟨sql, sql', run, run', -, distinct⟩ :=
    texts_eq_iff_regroup_eq (Table.distinguishes_abc .mysql) lefts rights true true ⟨":", ∅⟩ ⟨":", ∅⟩
  refine ⟨sql, sql', run, run', ?_⟩
  intro same
  have parted : left.Parted true := .null rfl (.not (.field "a"))
  have parted' : right.Parted true := .not (.null rfl (.field "a"))
  exact absurd (distinct parted parted' same) (by simp [left, right])

/-- In every dialect a test after a range may be one of the range or of its upper bound, and a column
name in quotation marks is written like the same name without them. -/
theorem Expression.tests_of_ranges_ambiguous :
    let left : Expression := .null (.between (.field "a") (.field "b") (.field "c"))
    let right : Expression := .between (.field "a") (.field "b") (.null (.field "c"))
    left ≠ right ∧ left.IsPredicate (some Table.abc) ∧ right.IsPredicate (some Table.abc) ∧
      (∀ (kind : DialectKind) (mode : Bool) (bindings : Bindings), ∃ sql,
        (left.render { dialect := kind.dialect, table := Table.abc, parameterized := mode }).run
          bindings = (.ok sql, bindings) ∧
        (right.render { dialect := kind.dialect, table := Table.abc, parameterized := mode }).run
          bindings = (.ok sql, bindings)) ∧
      (Table.quotedTwice.columns.map Column.name).Nodup ∧
      let renderer : Renderer :=
        { dialect := DialectKind.generic.dialect, table := Table.quotedTwice }
      ∀ bindings, ∃ sql, ((Expression.field "a").render renderer).run bindings = (.ok sql, bindings) ∧
        ((Expression.field "b").render renderer).run bindings = (.ok sql, bindings) := by
  intro left right
  have lefts : left.IsPredicate (some Table.abc) :=
    .null (.between (.field rfl) (.field rfl) (.field rfl))
  have rights : right.IsPredicate (some Table.abc) :=
    .between (.field rfl) (.field rfl) (.null (.field rfl))
  refine ⟨by simp [left, right], lefts, rights, ?_, by decide, ?_⟩
  · intro kind mode bindings
    have distinct := Table.distinguishes_abc kind
    have same : left.conditionText kind Table.abc = right.conditionText kind Table.abc :=
      congrArg (fun draft : Draft => draft.pieces.fill kind.dialect _) (Draft.append_assoc _ _ _)
    refine ⟨_, (lefts.legible distinct).run_render mode bindings, ?_⟩
    rw [same]
    exact (rights.legible distinct).run_render mode bindings
  · intro renderer bindings
    exact ⟨_, rfl, rfl⟩

end SqlQuery
