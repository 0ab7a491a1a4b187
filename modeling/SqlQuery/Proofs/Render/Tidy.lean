import Mathlib.Data.List.Chain
import SqlQuery.Proofs.Dialect.Regular
import SqlQuery.Proofs.Expression.Induction
import SqlQuery.Proofs.Query.Guarded
import SqlQuery.Proofs.Render.Draft

/-! # Tidy templates

In a tidy template every fixed text satisfies a given condition, and whatever could run into what
comes next (a name, a literal, a filled hole) is followed by the end or by a text that breaks it off.
Guarded trees have tidy drafts in a dialect whose own texts are regular.
-/

namespace SqlQuery

/-- Whether what follows a piece could be taken for a part of it. -/
def Piece.isOpen : Piece → Bool
  | name _ | quoted _ | hole _ => true
  | sql _ | dropped _ => false

/-- An open piece is broken off by the next one. -/
def Piece.Separated (piece next : Piece) : Prop :=
  piece.isOpen → ∃ text, next = .sql text ∧ breaks text

structure Template.Tidy (fixed : String → Prop) (template : Template) : Prop where
  texts : ∀ text, .sql text ∈ template → fixed text
  separated : template.IsChain Piece.Separated

namespace Template.Tidy

variable {fixed : String → Prop} {first second : Template}

theorem nil : Template.Tidy fixed [] := ⟨by simp, .nil⟩

theorem singleton {piece : Piece} (allowed : ∀ text, piece = .sql text → fixed text) :
    Template.Tidy fixed [piece] := by
  refine ⟨?_, List.isChain_singleton piece⟩
  intro text member
  exact allowed text (List.mem_singleton.mp member).symm

theorem append (tidy : first.Tidy fixed) (tidy' : second.Tidy fixed)
    (junction : ∀ piece ∈ first.getLast?, ∀ next ∈ second.head?, piece.Separated next) :
    Template.Tidy fixed (first ++ second) := by
  refine ⟨?_, List.isChain_append.mpr ⟨tidy.separated, tidy'.separated, junction⟩⟩
  intro text member
  rcases List.mem_append.mp member with before | after
  · exact tidy.texts text before
  · exact tidy'.texts text after

/-- Nothing runs into what follows a piece that is not open. -/
theorem cons {piece : Piece} (closed : piece.isOpen = false)
    (allowed : ∀ text, piece = .sql text → fixed text) (tidy : second.Tidy fixed) :
    Template.Tidy fixed (piece :: second) := by
  refine ⟨?_, List.isChain_cons.mpr ⟨?_, tidy.separated⟩⟩
  · intro text member
    rcases List.mem_cons.mp member with same | later
    · exact allowed text same.symm
    · exact tidy.texts text later
  · intro next _ isOpen
    simp [closed] at isOpen

theorem opening {text : String} (allowed : fixed text) (tidy : second.Tidy fixed) :
    Template.Tidy fixed (.sql text :: second) := by
  refine cons rfl ?_ tidy
  rintro other ⟨⟩
  exact allowed

theorem closing {text : String} (tidy : first.Tidy fixed) (allowed : fixed text)
    (broken : breaks text) : Template.Tidy fixed (first ++ [.sql text]) := by
  refine append tidy (singleton ?_) ?_
  · rintro other ⟨⟩
    exact allowed
  · rintro piece - next ⟨⟩ -
    exact ⟨text, rfl, broken⟩

theorem parted {text : String} (tidy : first.Tidy fixed) (allowed : fixed text)
    (broken : breaks text) (tidy' : second.Tidy fixed) :
    Template.Tidy fixed (first ++ [.sql text] ++ second) := by
  refine append (tidy.closing allowed broken) tidy' ?_
  intro piece last next _ isOpen
  obtain rfl : .sql text = piece := by simpa using last
  contradiction

theorem tail {piece : Piece} (tidy : Template.Tidy fixed (piece :: second)) :
    second.Tidy fixed :=
  ⟨fun text member => tidy.texts text (List.mem_cons_of_mem _ member),
    (List.isChain_cons.mp tidy.separated).2⟩

/-- However it is filled, what comes after an open piece starts with a break. -/
theorem isBreak_of_head? {piece : Piece} (tidy : Template.Tidy fixed (piece :: second))
    (isOpen : piece.isOpen) (dialect : Dialect) (write : Nat → Value → String) (index : Nat) :
    ∀ c ∈ (second.fillFrom dialect write index).toList.head?, isBreak c := by
  intro c first
  cases second with
  | nil => simp [fillFrom] at first
  | cons next rest =>
    have separated := (List.isChain_cons.mp tidy.separated).1 next rfl
    obtain ⟨text, rfl, broken⟩ := separated isOpen
    obtain ⟨d, head, isBreak⟩ := (Option.any_eq_true _ _).mp broken
    rw [fillFrom, String.toList_append, List.head?_append, head, Option.some_or] at first
    exact Option.some.inj first ▸ isBreak

end Template.Tidy

/-! ## Drafts -/

namespace Draft

variable {first second : Draft}

/-- A draft that is tidy unless it has failed. -/
def Tidy (fixed : String → Prop) (draft : Draft) : Prop :=
  draft.failure = none → draft.pieces.Tidy fixed

namespace Tidy

variable {fixed : String → Prop}

theorem blank : Draft.Tidy fixed .blank := fun _ => .nil

theorem failed (cause : RenderError) : Draft.Tidy fixed (.failed cause) := fun _ => .nil

theorem text {sql : String} (allowed : fixed sql) : Draft.Tidy fixed (.text sql) := by
  refine fun _ => .singleton ?_
  rintro other ⟨⟩
  exact allowed

theorem piece {single : Piece} (isOpen : single.isOpen) : Draft.Tidy fixed (.piece single) := by
  refine fun _ => .singleton ?_
  rintro text rfl
  contradiction

theorem opening {sql : String} (allowed : fixed sql) (tidy : second.Tidy fixed) :
    (.text sql ++ second : Draft).Tidy fixed := by
  intro complete
  rw [pieces_append rfl]
  exact .opening allowed (tidy (failure_append.mp complete).2)

theorem closing {sql : String} (tidy : first.Tidy fixed) (allowed : fixed sql)
    (broken : breaks sql) : (first ++ .text sql : Draft).Tidy fixed := by
  intro complete
  have before := (failure_append.mp complete).1
  rw [pieces_append before]
  exact (tidy before).closing allowed broken

theorem parted {sql : String} (tidy : first.Tidy fixed) (allowed : fixed sql)
    (broken : breaks sql) (tidy' : second.Tidy fixed) :
    (first ++ .text sql ++ second : Draft).Tidy fixed := by
  intro complete
  obtain ⟨before, after⟩ := failure_append.mp complete
  have start := (failure_append.mp before).1
  rw [pieces_append before, pieces_append start]
  exact (tidy start).parted allowed broken (tidy' after)

theorem join {separator : String} (allowed : fixed separator) (broken : breaks separator)
    {drafts : List Draft} (each : ∀ draft ∈ drafts, draft.Tidy fixed) :
    (Draft.join separator drafts).Tidy fixed := by
  fun_induction Draft.join separator drafts with
  | case1 => exact blank
  | case2 only => exact each only (List.mem_singleton_self only)
  | case3 first rest _ ih =>
    obtain ⟨head, tail⟩ := List.forall_mem_cons.mp each
    exact parted head allowed broken (ih tail)

/-- Pieces without text have nothing to be broken off from. -/
theorem dropped (draft : Draft) {sql : String} (allowed : fixed sql) :
    (draft.dropped ++ .text sql : Draft).Tidy fixed := by
  intro complete
  rw [pieces_append (failure_append.mp complete).1]
  have closed : ∀ piece ∈ draft.dropped.pieces, ∃ value, piece = .dropped value := by
    intro piece member
    obtain ⟨source, -, same⟩ := List.mem_filterMap.mp member
    cases source with
    | hole value | dropped value => exact ⟨value, (Option.some.inj same).symm⟩
    | sql | name | quoted => contradiction
  generalize draft.dropped.pieces = pieces at closed ⊢
  induction pieces with
  | nil => exact text allowed rfl
  | cons head rest ih =>
    obtain ⟨⟨value, rfl⟩, tail⟩ := List.forall_mem_cons.mp closed
    exact .cons rfl (by simp) (ih tail)

theorem field {table : Option Table} {name : String} (mapped : IsMapped table name) :
    (Draft.field table name).Tidy fixed := by
  obtain ⟨column, found⟩ := Option.isSome_iff_exists.mp mapped
  rw [Draft.field, found]
  exact piece rfl

section

variable {dialect : Dialect} (regular : dialect.Regular fixed)

include regular

theorem operation {operator : String} (allowed : fixed (" " ++ operator ++ " "))
    (tidy : first.Tidy fixed) (tidy' : second.Tidy fixed) :
    (Draft.operation first operator second).Tidy fixed :=
  closing (parted (opening (regular.basic "(" rfl) tidy) allowed (breaks_operator operator) tidy')
    (regular.basic ")" rfl) rfl

theorem lowered (tidy : first.Tidy fixed) : (Draft.lowered dialect first).Tidy fixed :=
  closing (opening (regular.basic _ (isBasic_append regular.lower rfl)) tidy)
    (regular.basic ")" rfl) rfl

theorem escaped (escape : Option Char) (tidy : first.Tidy fixed) :
    (Draft.escaped first escape).Tidy fixed := by
  cases escape with
  | none => exact tidy
  | some c => exact tidy.parted (regular.basic " escape " rfl) rfl (piece rfl)

theorem aliased (label : Option String) (tidy : first.Tidy fixed) :
    (Draft.aliased first label).Tidy fixed := by
  cases label with
  | none => exact tidy
  | some name =>
    rw [Draft.aliased]
    split
    · exact tidy
    · exact tidy.parted (regular.basic " AS " rfl) rfl (piece rfl)

theorem call {function : SqlFunction} (known : function.Regular fixed) {arguments : List Draft}
    (each : ∀ argument ∈ arguments, argument.Tidy fixed) :
    (Draft.call function arguments).Tidy fixed := by
  cases function with
  | call name =>
    have listed := join (regular.basic ", " rfl) rfl each
    exact closing (opening (regular.basic _ (isBasic_append known rfl)) listed)
      (regular.basic ")" rfl) rfl
  | constant sql => exact dropped _ known
  | enclosing start separator finish =>
    obtain ⟨before, ⟨among, broken⟩, after, broken'⟩ := known
    have listed := join (regular.basic separator among) broken each
    exact closing (opening (regular.basic start before) listed) (regular.basic finish after) broken'

theorem lookupFirst (name : String) {arguments : List Draft}
    (each : ∀ argument ∈ arguments, argument.Tidy fixed) :
    (Draft.lookupFirst dialect name arguments).Tidy fixed := by
  rw [Draft.lookupFirst]
  split
  · rename_i function found
    exact call regular (regular.functions name function found) each
  · exact failed _

theorem lookupLast (name : String) {arguments : List Draft}
    (each : ∀ argument ∈ arguments, argument.Tidy fixed) :
    (Draft.lookupLast dialect name arguments).Tidy fixed := by
  rw [Draft.lookupLast]
  split
  · rename_i function found
    exact call regular (regular.functions name function found) each
  · intro complete
    have never := (failure_append.mp complete).2
    contradiction

end

end Tidy

end Draft

/-! ## Trees and statements -/

section

variable {fixed operators : String → Prop} {dialect : Dialect} {table : Option Table}
  (regular : dialect.Regular fixed)
  (allowed : ∀ operator, operators operator → fixed (" " ++ operator ++ " "))

theorem Expression.tidy_draftAll {expressions : List Expression}
    (each : ∀ expression ∈ expressions, (expression.draft dialect table).Tidy fixed) :
    ∀ draft ∈ Expression.draftAll dialect table expressions, draft.Tidy fixed := by
  rw [draftAll_eq_map]
  exact List.forall_mem_map.mpr each

include regular allowed

theorem Expression.Guarded.tidy_draft {expression : Expression}
    (guarded : expression.Guarded table operators) :
    (expression.draft dialect table).Tidy fixed := by
  induction expression with
  | field name => cases guarded with | field mapped => exact .field mapped
  | value bound => exact .piece rfl
  | plain sql => cases guarded
  | simple left operator right left_tidy right_tidy =>
    cases guarded with
    | simple known lefts rights =>
      exact .operation regular (allowed operator known) (left_tidy lefts) (right_tidy rights)
  | logical left operator right left_tidy right_tidy =>
    cases guarded with
    | logical known lefts rights =>
      exact .operation regular (allowed operator known) (left_tidy lefts) (right_tidy rights)
  | property left operator right =>
    cases guarded with
    | property known mapped mapped' =>
      exact .operation regular (allowed operator known) (.field mapped) (.field mapped')
  | not operand operand_tidy =>
    cases guarded with
    | not operands =>
      rw [Expression.draft]
      split
      · exact .closing (.opening (regular.basic "not (" rfl) (operand_tidy operands))
          (regular.basic ")" rfl) rfl
      · exact .opening (regular.basic "not " rfl) (operand_tidy operands)
  | notNull operand operand_tidy =>
    cases guarded with
    | notNull operands =>
      exact .closing (operand_tidy operands) (regular.basic " is not null" rfl) rfl
  | null operand operand_tidy =>
    cases guarded with
    | null operands => exact .closing (operand_tidy operands) (regular.basic " is null" rfl) rfl
  | between operand lower upper operand_tidy lower_tidy upper_tidy =>
    cases guarded with
    | between operands lowers uppers =>
      exact .parted (.parted (operand_tidy operands) (regular.basic " between " rfl) rfl
        (lower_tidy lowers)) (regular.basic " and " rfl) rfl (upper_tidy uppers)
  | like operand pattern mode escape ignoreCase operand_tidy =>
    cases guarded with
    | like _ _ _ _ operands =>
      refine .escaped regular escape (.parted ?_ (regular.basic " like " rfl) rfl (.piece rfl))
      cases ignoreCase with
      | true => exact .lowered regular (operand_tidy operands)
      | false => exact operand_tidy operands
  | ilike operand pattern mode escape operand_tidy =>
    cases guarded with
    | ilike _ _ _ operands =>
      refine .escaped regular escape ?_
      split
      · exact .parted (operand_tidy operands) (regular.basic " ilike " rfl) rfl (.piece rfl)
      · exact .parted (.lowered regular (operand_tidy operands)) (regular.basic " like " rfl) rfl
          (.piece rfl)
  | inValues operand values operand_tidy each =>
    cases guarded with
    | inValues operands members =>
      rw [Expression.draft]
      split
      · exact .text (regular.basic "1=0" rfl)
      · have all := tidy_draftAll fun value member => each value member
          (members value member)
        exact .closing (.parted (operand_tidy operands) (regular.basic " in (" rfl) rfl
          (.join (regular.basic ", " rfl) rfl all)) (regular.basic ")" rfl) rfl
  | junction connective members each =>
    cases guarded with
    | junction _ guards =>
      rw [Expression.draft]
      split
      · exact .text (regular.basic "1=1" rfl)
      · have all := tidy_draftAll fun value member => each value member
          (guards value member)
        have between : isBasic (" " ++ connective.operator ++ " ") := by cases connective <;> rfl
        exact .closing (.opening (regular.basic "(" rfl) (.join (regular.basic _ between)
          (breaks_operator _) all)) (regular.basic ")" rfl) rfl
  | function name arguments each =>
    cases guarded with
    | function _ guards =>
      have all := tidy_draftAll fun value member => each value member
        (guards value member)
      exact .lookupFirst regular name all

theorem Order.tidy_draft {order : Order} (guarded : order.expression.Guarded table operators) :
    (order.draft dialect table).Tidy fixed := by
  have direction : isBasic (" " ++ order.direction) := by
    rw [Order.direction]
    split <;> rfl
  exact .closing (guarded.tidy_draft regular allowed) (regular.basic _ direction)
    (breaks_append rfl _)

namespace Projection.Guarded

theorem tidy_draftArgument {argument : Expression} (distinct : Bool)
    (guarded : argument.Guarded table operators) :
    (Projection.draftArgument dialect table argument distinct).Tidy fixed := by
  have tidy := guarded.tidy_draft regular allowed
  cases distinct with
  | true => exact .opening (regular.basic "distinct " rfl) tidy
  | false => exact tidy

theorem tidy_draft {projection : Projection} (guarded : projection.Guarded table operators) :
    (projection.draft dialect table).Tidy fixed := by
  induction projection with
  | aggregate function argument distinct label grouped =>
    cases guarded with
    | aggregate _ _ _ _ arguments =>
      refine .aliased regular label (.lookupLast regular function ?_)
      exact List.forall_mem_singleton.mpr (tidy_draftArgument regular allowed distinct arguments)
  | rowCount label =>
    refine .aliased regular label (.lookupLast regular "count" ?_)
    exact List.forall_mem_singleton.mpr (.text (regular.basic "*" rfl))
  | property field label grouped =>
    cases guarded with | property _ _ mapped => exact .aliased regular label (.field mapped)
  | expression inner label =>
    cases guarded with
    | expression _ inners => exact .aliased regular label (inners.tidy_draft regular allowed)
  | list members each =>
    cases guarded with
    | list guards =>
      refine .join (regular.basic ", " rfl) rfl ?_
      rw [draftAll_eq_map]
      refine List.forall_mem_map.mpr ?_
      intro member present
      exact each member present (guards member present)

theorem tidy_draftGroup {projection : Projection} (guarded : projection.Guarded table operators) :
    (projection.draftGroup dialect table).Tidy fixed := by
  induction projection with
  | aggregate function argument distinct label grouped =>
    cases guarded with
    | aggregate _ _ _ _ arguments =>
      rw [Projection.draftGroup]
      split
      · refine .lookupLast regular function ?_
        exact List.forall_mem_singleton.mpr (tidy_draftArgument regular allowed distinct arguments)
      · exact .blank
  | property field label grouped =>
    cases guarded with
    | property _ _ mapped =>
      rw [Projection.draftGroup]
      split
      · exact .field mapped
      · exact .blank
  | rowCount | expression => exact .blank
  | list members each =>
    cases guarded with
    | list guards =>
      refine .join (regular.basic ", " rfl) rfl ?_
      rw [draftGroups_eq_map]
      refine List.forall_mem_map.mpr ?_
      intro member grouped
      have present := (List.mem_filter.mp grouped).1
      exact each member present (guards member present)

end Projection.Guarded

end

/-! ### Parts without values -/

section

variable {fixed : String → Prop} (basic : ∀ text, isBasic text → fixed text)

include basic

theorem Column.tidy_draft (column : Column) : column.draft.Tidy fixed := by
  rw [Column.draft]
  split
  · exact .piece rfl
  · exact .parted (.piece rfl) (basic " AS " rfl) rfl (.piece rfl)

theorem Table.tidy_draftName (table : Table) (catalog schema : Option String) :
    (table.draftName catalog schema).Tidy fixed := by
  refine .join (basic "." rfl) rfl ?_
  intro draft member
  obtain ⟨part, -, rfl⟩ := List.mem_map.mp member
  exact .piece rfl

theorem Table.tidy_draftAll (table : Table) (catalog schema : Option String) :
    (table.draftAll catalog schema).Tidy fixed := by
  refine .parted (.opening (basic "SELECT " rfl) ?_) (basic " FROM " rfl) rfl
    (table.tidy_draftName basic catalog schema)
  split
  · exact .text (basic "*" rfl)
  · refine .join (basic ", " rfl) rfl ?_
    intro draft member
    obtain ⟨column, -, rfl⟩ := List.mem_map.mp member
    exact column.tidy_draft basic

end

theorem Dialect.windowText_regular (dialect : Dialect) (limit offset : UInt64) :
    isBasic (dialect.windowText limit offset) ∧ breaks (dialect.windowText limit offset) := by
  have number (n : UInt64) := isBasic_toString n.toNat
  -- A clause after a keyword, and two with another keyword between them.
  have single (first : String) (basic : isBasic first) (broken : breaks first) (n : UInt64) :
      isBasic (first ++ toString n.toNat) ∧ breaks (first ++ toString n.toNat) :=
    ⟨isBasic_append basic (number n), breaks_append broken _⟩
  have double (first among : String) (basic : isBasic first) (broken : breaks first)
      (basic' : isBasic among) (m n : UInt64) :
      isBasic (first ++ toString m.toNat ++ among ++ toString n.toNat) ∧
        breaks (first ++ toString m.toNat ++ among ++ toString n.toNat) := by
    obtain ⟨start, begun⟩ := single first basic broken m
    exact single _ (isBasic_append start basic') (breaks_append begun _) n
  rw [windowText]
  cases dialect.paging with
  | limitOffset =>
    dsimp only
    split
    · exact double " LIMIT " " OFFSET " rfl rfl rfl limit offset
    · exact single " LIMIT " rfl rfl limit
  | limitPair =>
    dsimp only
    split
    · exact double " LIMIT " ", " rfl rfl rfl offset limit
    · exact single " LIMIT " rfl rfl limit
  | offsetFetch =>
    obtain ⟨basic, broken⟩ := double " OFFSET " " ROWS FETCH NEXT " rfl rfl rfl offset limit
    exact ⟨isBasic_append basic rfl, breaks_append broken _⟩

namespace Query.Guarded

variable {fixed operators : String → Prop} {query : Query} (guarded : query.Guarded operators)
  (regular : query.dialect.Regular fixed)
  (allowed : ∀ operator, operators operator → fixed (" " ++ operator ++ " "))

include guarded regular allowed

theorem tidy_draftColumns (table : Table) : (query.draftColumns table).Tidy fixed := by
  rw [draftColumns]
  split
  · rename_i projection selected
    have columns := (guarded.projection projection selected).tidy_draft regular allowed
    exact .parted (.opening (regular.basic "SELECT " rfl) columns) (regular.basic " FROM " rfl) rfl
      (table.tidy_draftName regular.basic _ _)
  · exact table.tidy_draftAll regular.basic _ _

theorem tidy_draftSelect : query.draftSelect.Tidy fixed := by
  rw [draftSelect]
  split
  · exact .failed _
  · rename_i table mapped
    -- Either clause is absent or starts with a text that breaks off what comes before.
    have conditions : (query.draftColumns table ++ query.draftWhere).Tidy fixed := by
      have columns := guarded.tidy_draftColumns regular allowed table
      rw [draftWhere]
      split
      · rwa [Draft.append_blank]
      · rw [← Draft.append_assoc]
        refine .parted columns (regular.basic " WHERE " rfl) rfl
          (.join (regular.basic " AND " rfl) rfl (Expression.tidy_draftAll ?_))
        intro condition member
        exact (guarded.conditions condition member).tidy_draft regular allowed
    rw [draftGrouping]
    split
    · rename_i projection selected
      have groups := (guarded.projection projection selected).tidy_draftGroup regular allowed
      split
      · rw [← Draft.append_assoc]
        exact .parted conditions (regular.basic " GROUP BY " rfl) rfl groups
      · rwa [Draft.append_blank]
    · rwa [Draft.append_blank]

theorem tidy_draftOrder {order : Draft} (ordered : query.draftOrder = some order) :
    order.Tidy fixed := by
  rw [draftOrder] at ordered
  split at ordered
  · contradiction
  · obtain rfl := Option.some.inj ordered
    refine .opening (regular.basic "ORDER BY " rfl) (.join (regular.basic ", " rfl) rfl ?_)
    intro draft member
    obtain ⟨order, present, rfl⟩ := List.mem_map.mp member
    exact Order.tidy_draft regular allowed (guarded.orders order present)

omit guarded allowed in
theorem tidy_draftOrdered {select : Draft} {order : Option Draft} (tidy : select.Tidy fixed)
    (ordered : ∀ clause ∈ order, clause.Tidy fixed) : (draftOrdered select order).Tidy fixed := by
  cases order with
  | none => exact tidy
  | some clause => exact .parted tidy (regular.basic " " rfl) rfl (ordered clause rfl)

/-- The statements of a guarded query have tidy drafts. -/
theorem tidy_draft (kind : StatementKind) : (query.draft kind).Tidy fixed := by
  have select := guarded.tidy_draftSelect regular allowed
  have orders (clause : Draft) (ordered : clause ∈ query.draftOrder) : clause.Tidy fixed :=
    guarded.tidy_draftOrder regular allowed ordered
  cases kind with
  | select => exact select
  | count =>
    exact .closing (.opening (regular.basic "SELECT COUNT(*) FROM (" rfl) select)
      (regular.basic ") t" rfl) rfl
  | full =>
    rw [draft]
    split
    · rename_i limit _
      obtain ⟨basic, broken⟩ := query.dialect.windowText_regular limit query.window.offset
      refine .closing (tidy_draftOrdered regular select ?_) (regular.basic _ basic) broken
      intro clause windowed
      unfold Dialect.windowOrder at windowed
      split at windowed
      · obtain rfl := Option.some.inj windowed
        exact .text (regular.basic "ORDER BY (SELECT NULL)" rfl)
      · exact orders clause windowed
    · exact tidy_draftOrdered regular select orders

end Query.Guarded

end SqlQuery
