import Mathlib.Data.List.Forall2
import SqlQuery.Proofs.Expression.Induction
import SqlQuery.Proofs.Query.Guarded
import SqlQuery.Proofs.Render.Draft

/-! # Trees that differ in their values

Two trees are alike when they have the same form and differ at most in the values that they bind and
in the patterns of LIKE. Values that stand at the same place are related; a pattern counts with its
wildcards. Alike queries have drafts that differ only in the values of their holes.
-/

namespace SqlQuery

variable {related : Value → Value → Prop}

inductive Expression.Alike (related : Value → Value → Prop) : Expression → Expression → Prop
  | field (name : String) : Alike related (.field name) (.field name)
  | value {left right : Value} (values : related left right) :
    Alike related (.value left) (.value right)
  | plain (sql : String) : Alike related (.plain sql) (.plain sql)
  | simple {left left' right right' : Expression} (operator : String)
    (lefts : Alike related left left') (rights : Alike related right right') :
    Alike related (.simple left operator right) (.simple left' operator right')
  | logical {left left' right right' : Expression} (operator : String)
    (lefts : Alike related left left') (rights : Alike related right right') :
    Alike related (.logical left operator right) (.logical left' operator right')
  | property (left operator right : String) :
    Alike related (.property left operator right) (.property left operator right)
  | not {operand operand' : Expression} (operands : Alike related operand operand') :
    Alike related (.not operand) (.not operand')
  | notNull {operand operand' : Expression} (operands : Alike related operand operand') :
    Alike related (.notNull operand) (.notNull operand')
  | null {operand operand' : Expression} (operands : Alike related operand operand') :
    Alike related (.null operand) (.null operand')
  | between {operand operand' lower lower' upper upper' : Expression}
    (operands : Alike related operand operand') (lowers : Alike related lower lower')
    (uppers : Alike related upper upper') :
    Alike related (.between operand lower upper) (.between operand' lower' upper')
  | like {operand operand' : Expression} {pattern pattern' : String} (mode : MatchMode)
    (escape : Option Char) (ignoreCase : Bool) (operands : Alike related operand operand')
    (patterns : related (.text (mode.pattern pattern)) (.text (mode.pattern pattern'))) :
    Alike related (.like operand pattern mode escape ignoreCase)
      (.like operand' pattern' mode escape ignoreCase)
  | ilike {operand operand' : Expression} {pattern pattern' : String} (mode : MatchMode)
    (escape : Option Char) (operands : Alike related operand operand')
    (patterns : related (.text (mode.pattern pattern)) (.text (mode.pattern pattern'))) :
    Alike related (.ilike operand pattern mode escape) (.ilike operand' pattern' mode escape)
  | inValues {operand operand' : Expression} {values values' : List Expression}
    (operands : Alike related operand operand')
    (members : List.Forall₂ (Alike related) values values') :
    Alike related (.inValues operand values) (.inValues operand' values')
  | junction {members members' : List Expression} (connective : Connective)
    (each : List.Forall₂ (Alike related) members members') :
    Alike related (.junction connective members) (.junction connective members')
  | function {arguments arguments' : List Expression} (name : String)
    (each : List.Forall₂ (Alike related) arguments arguments') :
    Alike related (.function name arguments) (.function name arguments')

inductive Projection.Alike (related : Value → Value → Prop) : Projection → Projection → Prop
  | aggregate {argument argument' : Expression} (function : String) (distinct : Bool)
    (label : Option String) (grouped : Bool)
    (arguments : argument.Alike related argument') :
    Alike related (.aggregate function argument distinct label grouped)
      (.aggregate function argument' distinct label grouped)
  | rowCount (label : Option String) : Alike related (.rowCount label) (.rowCount label)
  | property (field : String) (label : Option String) (grouped : Bool) :
    Alike related (.property field label grouped) (.property field label grouped)
  | expression {inner inner' : Expression} (label : Option String)
    (inners : inner.Alike related inner') :
    Alike related (.expression inner label) (.expression inner' label)
  | list {members members' : List Projection}
    (each : List.Forall₂ (Alike related) members members') :
    Alike related (.list members) (.list members')

structure Order.Alike (related : Value → Value → Prop) (left right : Order) : Prop where
  expression : left.expression.Alike related right.expression
  ascending : left.ascending = right.ascending

/-- Queries that differ in their values only; what they rendered before plays no part. -/
structure Query.Alike (related : Value → Value → Prop) (left right : Query) : Prop where
  target : left.target = right.target
  table : left.table = right.table
  dialect : left.dialect = right.dialect
  catalog : left.catalog = right.catalog
  schema : left.schema = right.schema
  conditions : List.Forall₂ (Expression.Alike related) left.conditions right.conditions
  projection : Option.Rel (Projection.Alike related) left.projection right.projection
  orders : List.Forall₂ (Order.Alike related) left.orders right.orders
  parameterized : left.parameterized = right.parameterized
  window : left.window = right.window

/-! ## Templates -/

inductive Piece.Alike (related : Value → Value → Prop) : Piece → Piece → Prop
  | sql (text : String) : Alike related (.sql text) (.sql text)
  | name (identifier : String) : Alike related (.name identifier) (.name identifier)
  | quoted (text : String) : Alike related (.quoted text) (.quoted text)
  | hole {left right : Value} (values : related left right) :
    Alike related (.hole left) (.hole right)
  | dropped {left right : Value} (values : related left right) :
    Alike related (.dropped left) (.dropped right)

abbrev Template.Alike (related : Value → Value → Prop) : Template → Template → Prop :=
  List.Forall₂ (Piece.Alike related)

namespace Template.Alike

variable {left right : Template}

theorem values (alike : Template.Alike related left right) :
    List.Forall₂ related left.values right.values := by
  induction alike with
  | nil => exact .nil
  | cons head _ ih =>
    cases head with
    | sql | name | quoted => exact ih
    | hole values => exact .cons values ih
    | dropped values => exact .cons values ih

/-- Alike templates have one text when related values are written alike. -/
theorem fillFrom_eq {write write' : Nat → Value → String} (dialect : Dialect)
    (written : ∀ index value value', related value value' →
      write index value = write' index value')
    (alike : Template.Alike related left right) (index : Nat) :
    fillFrom dialect write index left = fillFrom dialect write' index right := by
  induction alike generalizing index with
  | nil => rfl
  | cons head _ ih =>
    cases head with
    | sql | name | quoted => simp only [fillFrom, ih index]
    | hole values => simp only [fillFrom, ih (index + 1), written index _ _ values]
    | dropped => simp only [fillFrom, ih (index + 1)]

end Template.Alike

/-! ## Drafts -/

structure Draft.Alike (related : Value → Value → Prop) (left right : Draft) : Prop where
  pieces : Template.Alike related left.pieces right.pieces
  failure : left.failure = right.failure

namespace Draft.Alike

variable {left left' right right' : Draft}

theorem blank : Draft.Alike related .blank .blank := ⟨.nil, rfl⟩

theorem piece {single single' : Piece} (alike : single.Alike related single') :
    Draft.Alike related (.piece single) (.piece single') :=
  ⟨.cons alike .nil, rfl⟩

theorem text (sql : String) : Draft.Alike related (.text sql) (.text sql) := piece (.sql sql)

theorem failed (cause : RenderError) : Draft.Alike related (.failed cause) (.failed cause) :=
  ⟨.nil, rfl⟩

theorem append (first : left.Alike related left') (second : right.Alike related right') :
    (left ++ right).Alike related (left' ++ right') := by
  change (Draft.append _ _).Alike related (Draft.append _ _)
  have same := first.failure
  rw [Draft.append, Draft.append]
  cases failure : left.failure with
  | some cause =>
    rw [failure] at same
    simp only [← same]
    exact ⟨first.pieces, rfl⟩
  | none =>
    rw [failure] at same
    simp only [← same]
    exact ⟨List.rel_append first.pieces second.pieces, second.failure⟩

theorem join (separator : String) {drafts drafts' : List Draft}
    (each : List.Forall₂ (Draft.Alike related) drafts drafts') :
    (Draft.join separator drafts).Alike related (Draft.join separator drafts') := by
  induction each with
  | nil => exact blank
  | cons first rest ih =>
    cases rest with
    | nil => exact first
    | cons second others => exact append (append first (text separator)) ih

theorem dropped (alike : left.Alike related right) :
    left.dropped.Alike related right.dropped := by
  refine ⟨?_, alike.failure⟩
  refine List.rel_filterMap ?_ alike.pieces
  intro piece piece' pieces
  cases pieces with
  | sql | name | quoted => exact .none
  | hole values => exact .some (.dropped values)
  | dropped values => exact .some (.dropped values)

theorem field (table : Option Table) (name : String) :
    Draft.Alike related (.field table name) (.field table name) := by
  rw [Draft.field]
  split
  · exact piece (.name _)
  · exact text name

theorem operation (operator : String) (lefts : left.Alike related left')
    (rights : right.Alike related right') :
    (Draft.operation left operator right).Alike related (Draft.operation left' operator right') :=
  append (append (append (append (text _) lefts) (text _)) rights) (text _)

theorem lowered (dialect : Dialect) (alike : left.Alike related right) :
    (Draft.lowered dialect left).Alike related (Draft.lowered dialect right) :=
  append (append (text _) alike) (text _)

theorem escaped (escape : Option Char) (alike : left.Alike related right) :
    (Draft.escaped left escape).Alike related (Draft.escaped right escape) := by
  cases escape with
  | none => exact alike
  | some c => exact append (append alike (text _)) (piece (.quoted _))

theorem aliased (label : Option String) (alike : left.Alike related right) :
    (Draft.aliased left label).Alike related (Draft.aliased right label) := by
  cases label with
  | none => exact alike
  | some name =>
    rw [Draft.aliased, Draft.aliased]
    split
    · exact alike
    · exact append (append alike (text _)) (piece (.name name))

theorem call (function : SqlFunction) {arguments arguments' : List Draft}
    (each : List.Forall₂ (Draft.Alike related) arguments arguments') :
    (Draft.call function arguments).Alike related (Draft.call function arguments') := by
  cases function with
  | call name => exact append (append (text _) (join _ each)) (text _)
  | constant sql => exact append (dropped (join _ each)) (text _)
  | enclosing opening separator closing => exact append (append (text _) (join _ each)) (text _)

theorem lookupFirst (dialect : Dialect) (name : String) {arguments arguments' : List Draft}
    (each : List.Forall₂ (Draft.Alike related) arguments arguments') :
    (Draft.lookupFirst dialect name arguments).Alike related
      (Draft.lookupFirst dialect name arguments') := by
  rw [Draft.lookupFirst, Draft.lookupFirst]
  split
  · exact call _ each
  · exact failed _

theorem lookupLast (dialect : Dialect) (name : String) {arguments arguments' : List Draft}
    (each : List.Forall₂ (Draft.Alike related) arguments arguments') :
    (Draft.lookupLast dialect name arguments).Alike related
      (Draft.lookupLast dialect name arguments') := by
  rw [Draft.lookupLast, Draft.lookupLast]
  split
  · exact call _ each
  · exact append (join _ each) (failed _)

end Draft.Alike

/-! ## Trees and statements -/

section

variable (dialect : Dialect) (table : Option Table)

theorem Expression.Alike.draftAll {lefts rights : List Expression}
    (each : ∀ left ∈ lefts, ∀ right, left.Alike related right →
      (left.draft dialect table).Alike related (right.draft dialect table))
    (alike : List.Forall₂ (Expression.Alike related) lefts rights) :
    List.Forall₂ (Draft.Alike related) (Expression.draftAll dialect table lefts)
      (Expression.draftAll dialect table rights) := by
  induction alike with
  | nil => exact .nil
  | cons head _ ih =>
    have first := each _ (List.mem_cons_self ..) _ head
    exact .cons first (ih fun left member => each left (List.mem_cons_of_mem _ member))

theorem Expression.Alike.draft {left right : Expression} (alike : left.Alike related right) :
    (left.draft dialect table).Alike related (right.draft dialect table) := by
  induction left generalizing right with
  | field name => cases alike; exact .field table name
  | value bound => cases alike with | value values => exact .piece (.hole values)
  | plain sql => cases alike; exact .text sql
  | simple left operator right left_alike right_alike =>
    cases alike with
    | simple _ lefts rights => exact .operation operator (left_alike lefts) (right_alike rights)
  | logical left operator right left_alike right_alike =>
    cases alike with
    | logical _ lefts rights => exact .operation operator (left_alike lefts) (right_alike rights)
  | property left operator right =>
    cases alike
    exact .operation operator (.field table left) (.field table right)
  | not operand operand_alike =>
    cases alike with
    | not operands =>
      rw [Expression.draft, Expression.draft]
      split
      · exact .append (.append (.text _) (operand_alike operands)) (.text _)
      · exact .append (.text _) (operand_alike operands)
  | notNull operand operand_alike =>
    cases alike with | notNull operands => exact .append (operand_alike operands) (.text _)
  | null operand operand_alike =>
    cases alike with | null operands => exact .append (operand_alike operands) (.text _)
  | between operand lower upper operand_alike lower_alike upper_alike =>
    cases alike with
    | between operands lowers uppers =>
      exact .append (.append (.append (.append (operand_alike operands) (.text _))
        (lower_alike lowers)) (.text _)) (upper_alike uppers)
  | like operand pattern mode escape ignoreCase operand_alike =>
    cases alike with
    | like _ _ _ operands patterns =>
      refine .escaped escape (.append (.append ?_ (.text _)) (.piece (.hole patterns)))
      cases ignoreCase with
      | true => exact .lowered dialect (operand_alike operands)
      | false => exact operand_alike operands
  | ilike operand pattern mode escape operand_alike =>
    cases alike with
    | ilike _ _ operands patterns =>
      refine .escaped escape (.append ?_ (.piece (.hole patterns)))
      split
      · exact .append (operand_alike operands) (.text _)
      · exact .append (.lowered dialect (operand_alike operands)) (.text _)
  | inValues operand values operand_alike each =>
    cases alike with
    | inValues operands members =>
      rw [Expression.draft, Expression.draft]
      cases members with
      | nil => exact .text _
      | cons head rest =>
        have all := draftAll dialect table (fun left member _ => each left member) (.cons head rest)
        exact .append (.append (.append (operand_alike operands) (.text _)) (.join _ all)) (.text _)
  | junction connective members each =>
    cases alike with
    | junction _ members =>
      rw [Expression.draft, Expression.draft]
      cases members with
      | nil => exact .text _
      | cons head rest =>
        have all := draftAll dialect table (fun left member _ => each left member) (.cons head rest)
        exact .append (.append (.text _) (.join _ all)) (.text _)
  | function name arguments each =>
    cases alike with
    | function _ members =>
      exact .lookupFirst dialect name
        (draftAll dialect table (fun left member _ => each left member) members)

theorem Order.Alike.draft {left right : Order} (alike : left.Alike related right) :
    (left.draft dialect table).Alike related (right.draft dialect table) := by
  have direction : left.direction = right.direction := by
    rw [Order.direction, Order.direction, alike.ascending]
  rw [Order.draft, Order.draft, direction]
  exact .append (alike.expression.draft dialect table) (.text _)

namespace Projection.Alike

theorem draftArgument {argument argument' : Expression} (distinct : Bool)
    (alike : argument.Alike related argument') :
    (Projection.draftArgument dialect table argument distinct).Alike related
      (Projection.draftArgument dialect table argument' distinct) := by
  cases distinct with
  | true => exact .append (.text _) (alike.draft dialect table)
  | false => exact alike.draft dialect table

theorem draftAll {lefts rights : List Projection}
    (each : ∀ left ∈ lefts, ∀ right, left.Alike related right →
      (left.draft dialect table).Alike related (right.draft dialect table))
    (alike : List.Forall₂ (Projection.Alike related) lefts rights) :
    List.Forall₂ (Draft.Alike related) (Projection.draftAll dialect table lefts)
      (Projection.draftAll dialect table rights) := by
  induction alike with
  | nil => exact .nil
  | cons head _ ih =>
    have first := each _ (List.mem_cons_self ..) _ head
    exact .cons first (ih fun left member => each left (List.mem_cons_of_mem _ member))

theorem draft {left right : Projection} (alike : left.Alike related right) :
    (left.draft dialect table).Alike related (right.draft dialect table) := by
  induction left generalizing right with
  | aggregate function argument distinct label grouped =>
    cases alike with
    | aggregate _ _ _ _ arguments =>
      exact .aliased label (.lookupLast dialect function
        (.cons (draftArgument dialect table distinct arguments) .nil))
  | rowCount label =>
    cases alike
    exact .aliased label (.lookupLast dialect "count" (.cons (.text "*") .nil))
  | property field label grouped =>
    cases alike
    exact .aliased label (.field table field)
  | expression inner label =>
    cases alike with
    | expression _ inners => exact .aliased label (inners.draft dialect table)
  | list members each =>
    cases alike with
    | list members =>
      exact .join ", " (draftAll dialect table (fun left member _ => each left member) members)

theorem isGrouped {left right : Projection} (alike : left.Alike related right) :
    left.isGrouped = right.isGrouped := by
  induction left generalizing right with
  | aggregate | rowCount | property | expression => cases alike; rfl
  | list members each =>
    cases alike with
    | list members =>
      rw [Projection.isGrouped, Projection.isGrouped]
      induction members with
      | nil => rfl
      | cons head _ ih =>
        have first := each _ (List.mem_cons_self ..) head
        have rest := ih fun left member => each left (List.mem_cons_of_mem _ member)
        rw [Projection.anyGrouped, Projection.anyGrouped, first, rest]

theorem draftGroups {lefts rights : List Projection}
    (each : ∀ left ∈ lefts, ∀ right, left.Alike related right →
      (left.draftGroup dialect table).Alike related (right.draftGroup dialect table))
    (alike : List.Forall₂ (Projection.Alike related) lefts rights) :
    List.Forall₂ (Draft.Alike related) (Projection.draftGroups dialect table lefts)
      (Projection.draftGroups dialect table rights) := by
  induction alike with
  | nil => exact .nil
  | cons head _ ih =>
    have first := each _ (List.mem_cons_self ..) _ head
    have rest := ih fun left member => each left (List.mem_cons_of_mem _ member)
    rw [Projection.draftGroups, Projection.draftGroups, head.isGrouped]
    split
    · exact .cons first rest
    · exact rest

theorem draftGroup {left right : Projection} (alike : left.Alike related right) :
    (left.draftGroup dialect table).Alike related (right.draftGroup dialect table) := by
  induction left generalizing right with
  | aggregate function argument distinct label grouped =>
    cases alike with
    | aggregate _ _ _ _ arguments =>
      rw [Projection.draftGroup, Projection.draftGroup]
      split
      · exact .lookupLast dialect function
          (.cons (draftArgument dialect table distinct arguments) .nil)
      · exact .blank
  | property field label grouped =>
    cases alike
    rw [Projection.draftGroup]
    split
    · exact .field table field
    · exact .blank
  | rowCount | expression => cases alike; exact .blank
  | list members each =>
    cases alike with
    | list members =>
      exact .join ", " (draftGroups dialect table (fun left member _ => each left member) members)

end Projection.Alike

end

/-! ### Parts without values -/

theorem Column.draft_alike (column : Column) : column.draft.Alike related column.draft := by
  rw [Column.draft]
  split
  · exact .piece (.name _)
  · exact .append (.append (.piece (.name _)) (.text _)) (.piece (.name _))

theorem Table.draftName_alike (table : Table) (catalog schema : Option String) :
    (table.draftName catalog schema).Alike related (table.draftName catalog schema) := by
  refine .join "." (List.forall₂_same.mpr ?_)
  intro part member
  obtain ⟨identifier, -, rfl⟩ := List.mem_map.mp member
  exact .piece (.name identifier)

theorem Table.draftAll_alike (table : Table) (catalog schema : Option String) :
    (table.draftAll catalog schema).Alike related (table.draftAll catalog schema) := by
  refine .append (.append (.append (.text _) ?_) (.text _))
    (table.draftName_alike catalog schema)
  split
  · exact .text _
  · refine .join ", " (List.forall₂_same.mpr ?_)
    intro item member
    obtain ⟨column, -, rfl⟩ := List.mem_map.mp member
    exact column.draft_alike

namespace Query.Alike

variable {left right : Query}

theorem draftColumns (alike : left.Alike related right) (table : Table) :
    (left.draftColumns table).Alike related (right.draftColumns table) := by
  rw [Query.draftColumns, Query.draftColumns, alike.dialect, alike.table, alike.catalog,
    alike.schema]
  have projections := alike.projection
  generalize left.projection = before, right.projection = after at projections ⊢
  cases projections with
  | none => exact table.draftAll_alike _ _
  | some projections =>
    exact .append (.append (.append (.text _) (projections.draft _ _)) (.text _))
      (table.draftName_alike _ _)

theorem draftWhere (alike : left.Alike related right) :
    left.draftWhere.Alike related right.draftWhere := by
  rw [Query.draftWhere, Query.draftWhere, alike.dialect, alike.table]
  have conditions := alike.conditions
  generalize left.conditions = before, right.conditions = after at conditions ⊢
  cases conditions with
  | nil => exact .blank
  | cons head rest =>
    have all := Expression.Alike.draftAll right.dialect right.table
      (fun _ _ _ conditions => conditions.draft _ _) (.cons head rest)
    exact .append (.text _) (.join _ all)

theorem draftGrouping (alike : left.Alike related right) :
    left.draftGrouping.Alike related right.draftGrouping := by
  rw [Query.draftGrouping, Query.draftGrouping, alike.dialect, alike.table]
  have projections := alike.projection
  generalize left.projection = before, right.projection = after at projections ⊢
  cases projections with
  | none => exact .blank
  | some projections =>
    dsimp only
    rw [projections.isGrouped]
    split
    · exact .append (.text _) (projections.draftGroup _ _)
    · exact .blank

theorem draftSelect (alike : left.Alike related right) :
    left.draftSelect.Alike related right.draftSelect := by
  rw [Query.draftSelect, Query.draftSelect, alike.table, alike.target]
  cases right.table with
  | none => exact .failed _
  | some table =>
    exact .append (.append (alike.draftColumns table) alike.draftWhere) alike.draftGrouping

theorem draftOrder (alike : left.Alike related right) :
    Option.Rel (Draft.Alike related) left.draftOrder right.draftOrder := by
  rw [Query.draftOrder, Query.draftOrder, alike.dialect, alike.table]
  have orders := alike.orders
  generalize left.orders = before, right.orders = after at orders ⊢
  cases orders with
  | nil => exact .none
  | cons head rest =>
    refine .some (.append (.text _) (.join _ ?_))
    apply List.rel_map (R := Order.Alike related) _ (.cons head rest)
    intro order order' alike
    exact alike.draft right.dialect right.table

theorem draftOrdered {select select' : Draft} {order order' : Option Draft}
    (selects : select.Alike related select') (orders : Option.Rel (Draft.Alike related) order order') :
    (Query.draftOrdered select order).Alike related (Query.draftOrdered select' order') := by
  cases orders with
  | none => exact selects
  | some clauses => exact .append (.append selects (.text _)) clauses

/-- Alike queries have alike drafts for each of their statements. -/
theorem draft (alike : left.Alike related right) (kind : StatementKind) :
    (left.draft kind).Alike related (right.draft kind) := by
  cases kind with
  | select => exact alike.draftSelect
  | count => exact .append (.append (.text _) alike.draftSelect) (.text _)
  | full =>
    rw [Query.draft, Query.draft, alike.window, alike.dialect]
    cases right.window.limit with
    | none => exact draftOrdered alike.draftSelect alike.draftOrder
    | some limit =>
      refine .append (draftOrdered alike.draftSelect ?_) (.text _)
      unfold Dialect.windowOrder
      have orders := alike.draftOrder
      generalize left.draftOrder = before, right.draftOrder = after at orders ⊢
      cases orders with
      | none =>
        cases right.dialect.paging with
        | limitOffset | limitPair => exact .none
        | offsetFetch => exact .some (.text _)
      | some clauses => cases right.dialect.paging <;> exact .some clauses

end Query.Alike

theorem Query.people_alike (kind : DialectKind) {age age' : Value} {pattern pattern' : String}
    (ages : related age age')
    (patterns : related (.text ("%" ++ pattern ++ "%")) (.text ("%" ++ pattern' ++ "%"))) :
    (people kind age pattern).Alike related (people kind age' pattern') where
  target := rfl
  table := rfl
  dialect := rfl
  catalog := rfl
  schema := rfl
  conditions :=
    .cons (.simple ">" (.field "age") (.value ages)) <|
    .cons (.like .anywhere _ true (.field "name") patterns) <|
    .cons (.simple "<" (.field "seen") (.function "now" (.cons (.value ages) .nil))) .nil
  projection := .none
  orders := .cons ⟨.field "name", rfl⟩ .nil
  parameterized := rfl
  window := rfl

end SqlQuery
