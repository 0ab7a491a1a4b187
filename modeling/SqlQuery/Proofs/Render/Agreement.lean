import SqlQuery.Proofs.Expression.Induction
import SqlQuery.Proofs.Render.Draft

/-! # Rendering follows the draft

A draft is rendered piece by piece: fixed parts as they stand, values by the mode of the renderer.
Rendering a tree or a statement is rendering its draft, with the same text or cause and the same
bindings, from any bindings and in either mode.
-/

namespace SqlQuery

variable (renderer : Renderer)

/-- Renders one piece. -/
def Piece.render : Piece → Rendering String
  | sql text => pure text
  | name identifier => pure (renderer.dialect.quote identifier)
  | quoted text => pure (renderer.dialect.quoteLiteral text)
  | hole value => renderer.value value
  | dropped value => do
    let _ ← renderer.value value
    return ""

def Template.render : Template → Rendering String
  | [] => pure ""
  | piece :: rest => do
    let first ← piece.render renderer
    let others ← render rest
    return first ++ others

def Draft.render (draft : Draft) : Rendering String := do
  let text ← Template.render renderer draft.pieces
  match draft.failure with
  | none => return text
  | some cause => throw cause

/-! ## Parts of drafts -/

theorem Template.render_append (first second : Template) :
    Template.render renderer (first ++ second) = (do
      let left ← Template.render renderer first
      let right ← Template.render renderer second
      return left ++ right) := by
  induction first with
  | nil => simp only [Template.render, List.nil_append, pure_bind, String.empty_append, bind_pure]
  | cons piece rest ih =>
    simp only [Template.render, List.cons_append, ih, bind_assoc, pure_bind, String.append_assoc]

namespace Draft

@[simp] theorem render_blank : blank.render renderer = pure "" := by
  simp [Draft.render, blank, Template.render]

@[simp] theorem render_piece (single : Piece) :
    (piece single).render renderer = single.render renderer := by
  simp [Draft.render, piece, Template.render]

@[simp] theorem render_text (sql : String) : (text sql).render renderer = pure sql := by
  simp [text, Piece.render]

@[simp] theorem render_failed (cause : RenderError) :
    (failed cause).render renderer = throw cause := by
  simp [Draft.render, failed, Template.render]

@[simp] theorem render_append (first second : Draft) :
    (first ++ second).render renderer = (do
      let left ← first.render renderer
      let right ← second.render renderer
      return left ++ right) := by
  obtain ⟨pieces, failure⟩ := first
  change (append _ _).render renderer = _
  cases failure with
  | some cause => simp [append, Draft.render]
  | none =>
    cases failed : second.failure <;>
      simp [append, Draft.render, Template.render_append, failed]

theorem render_join (separator : String) (drafts : List Draft) :
    (join separator drafts).render renderer = (do
      let texts ← drafts.mapM (·.render renderer)
      return separator.intercalate texts) := by
  induction drafts with
  | nil => simp [join]
  | cons first rest ih =>
    cases rest with
    | nil => simp [join]
    | cons second others =>
      simp only [join, render_append, render_text, ih]
      simp [String.append_assoc]

/-- Dropping a draft leaves its bindings and its failure. -/
theorem render_dropped (draft : Draft) :
    draft.dropped.render renderer = (do
      let _ ← draft.render renderer
      return "") := by
  obtain ⟨pieces, failure⟩ := draft
  have template : Template.render renderer (pieces.filterMap Piece.drop?) = (do
      let _ ← Template.render renderer pieces
      return "") := by
    induction pieces with
    | nil => simp [Template.render]
    | cons piece rest ih =>
      cases piece <;> simp [Template.render, List.filterMap_cons, Piece.drop?, Piece.render, ih]
  cases failure <;> simp [Draft.render, dropped, template]

@[simp] theorem render_value (bound : Value) :
    (value bound).render renderer = renderer.value bound := by
  simp [value, Piece.render]

@[simp] theorem render_pattern (text : String) (mode : MatchMode) :
    (pattern text mode).render renderer = renderer.pattern text mode := by
  simp [pattern, Renderer.pattern]

@[simp] theorem render_field (name : String) :
    (field renderer.table name).render renderer = pure (renderer.field name) := by
  rw [field, Renderer.field]
  cases renderer.table.bind (·.findColumn? name) <;>
    simp [Piece.render, Column.quotedName]

theorem render_operation (left right : Draft) (operator : String) :
    (operation left operator right).render renderer = (do
      let left ← left.render renderer
      let right ← right.render renderer
      return SqlQuery.operation left operator right) := by
  simp [operation, SqlQuery.operation, String.append_assoc]

@[simp] theorem render_lowered (operand : Draft) :
    (lowered renderer.dialect operand).render renderer = (do
      let operand ← operand.render renderer
      return renderer.lowered operand) := by
  simp [lowered, Renderer.lowered, String.append_assoc]

@[simp] theorem render_escaped (comparison : Draft) (escape : Option Char) :
    (escaped comparison escape).render renderer = (do
      let comparison ← comparison.render renderer
      return renderer.escaped comparison escape) := by
  cases escape <;> simp [escaped, Renderer.escaped, Piece.render, String.append_assoc]

@[simp] theorem render_aliased (selected : Draft) (label : Option String) :
    (aliased selected label).render renderer = (do
      let selected ← selected.render renderer
      return renderer.aliased selected label) := by
  cases label with
  | none => simp [aliased, Renderer.aliased]
  | some name =>
    by_cases empty : name.isEmpty
    · simp [aliased, Renderer.aliased, empty]
    · simp [aliased, Renderer.aliased, empty, Piece.render, String.append_assoc]

theorem render_call (function : SqlFunction) (arguments : List Draft) :
    (call function arguments).render renderer = (do
      let arguments ← arguments.mapM (·.render renderer)
      return function.render arguments) := by
  cases function <;>
    simp [call, SqlFunction.render, render_join, render_dropped, String.append_assoc]

theorem render_lookupFirst (name : String) (arguments : List Draft) :
    (lookupFirst renderer.dialect name arguments).render renderer = (do
      let function ← MonadExcept.ofExcept (renderer.function name)
      let arguments ← arguments.mapM (·.render renderer)
      return function.render arguments) := by
  rw [lookupFirst, Renderer.function]
  cases renderer.dialect.functions.find? name <;>
    simp [render_call, MonadExcept.ofExcept]

theorem render_lookupLast (name : String) (arguments : List Draft) :
    (lookupLast renderer.dialect name arguments).render renderer = (do
      let arguments ← arguments.mapM (·.render renderer)
      let function ← MonadExcept.ofExcept (renderer.function name)
      return function.render arguments) := by
  rw [lookupLast, Renderer.function]
  cases renderer.dialect.functions.find? name <;>
    simp [render_call, render_join, MonadExcept.ofExcept]

end Draft

/-! ## Trees -/

/-- Expressions that each follow their draft are rendered like the drafts of all of them. -/
theorem Expression.renderAll_eq (expressions : List Expression)
    (each : ∀ expression ∈ expressions, expression.render renderer =
      (expression.draft renderer.dialect renderer.table).render renderer) :
    Expression.renderAll renderer expressions =
      (Expression.draftAll renderer.dialect renderer.table expressions).mapM
        (·.render renderer) := by
  induction expressions with
  | nil => rfl
  | cons first rest ih =>
    have head := each first (List.mem_cons_self ..)
    have tail := ih fun expression member => each expression (List.mem_cons_of_mem _ member)
    simp only [renderAll, draftAll, List.mapM_cons, head, tail]

theorem Expression.render_eq (expression : Expression) :
    expression.render renderer =
      (expression.draft renderer.dialect renderer.table).render renderer := by
  induction expression with
  | field name => simp [Expression.render, Expression.draft]
  | value bound => simp [Expression.render, Expression.draft]
  | plain sql => simp [Expression.render, Expression.draft]
  | simple left operator right left_eq right_eq =>
    rw [Expression.render, Expression.draft, Draft.render_operation, left_eq, right_eq]
  | logical left operator right left_eq right_eq =>
    rw [Expression.render, Expression.draft, Draft.render_operation, left_eq, right_eq]
  | property left operator right =>
    simp [Expression.render, Expression.draft, Draft.render_operation]
  | not operand operand_eq =>
    rw [Expression.render, Expression.draft, operand_eq]
    split <;> simp [String.append_assoc]
  | notNull operand operand_eq => simp [Expression.render, Expression.draft, operand_eq]
  | null operand operand_eq => simp [Expression.render, Expression.draft, operand_eq]
  | between operand lower upper operand_eq lower_eq upper_eq =>
    simp only [Expression.render, Expression.draft, operand_eq, lower_eq, upper_eq,
      Draft.render_append, Draft.render_text, bind_assoc, pure_bind, String.append_assoc]
  | like operand pattern mode escape ignoreCase operand_eq =>
    rw [Expression.render, Expression.draft, operand_eq]
    cases ignoreCase <;> simp [String.append_assoc]
  | ilike operand pattern mode escape operand_eq =>
    rw [Expression.render, Expression.draft, operand_eq]
    cases renderer.dialect.nativeIlike <;> simp [String.append_assoc]
  | inValues operand values operand_eq each =>
    rw [Expression.render, Expression.draft, operand_eq, renderAll_eq renderer values each]
    split <;> simp [Draft.render_join, String.append_assoc]
  | junction connective members each =>
    rw [Expression.render, Expression.draft, renderAll_eq renderer members each]
    split <;> simp [Draft.render_join, String.append_assoc]
  | function name arguments each =>
    rw [Expression.render, Expression.draft, Draft.render_lookupFirst,
      renderAll_eq renderer arguments each]

theorem Order.render_eq (order : Order) :
    order.render renderer = (order.draft renderer.dialect renderer.table).render renderer := by
  simp [Order.render, Order.draft, Expression.render_eq, String.append_assoc]

namespace Projection

theorem renderArgument_eq (argument : Expression) (distinct : Bool) :
    renderArgument renderer argument distinct =
      (draftArgument renderer.dialect renderer.table argument distinct).render renderer := by
  rw [renderArgument, draftArgument, Expression.render_eq]
  cases distinct <;> simp

theorem renderAll_eq (projections : List Projection)
    (each : ∀ projection ∈ projections, render renderer projection =
      (draft renderer.dialect renderer.table projection).render renderer) :
    renderAll renderer projections =
      (draftAll renderer.dialect renderer.table projections).mapM (·.render renderer) := by
  induction projections with
  | nil => rfl
  | cons first rest ih =>
    have head := each first (List.mem_cons_self ..)
    have tail := ih fun projection member => each projection (List.mem_cons_of_mem _ member)
    simp only [renderAll, draftAll, List.mapM_cons, head, tail]

theorem render_eq (projection : Projection) :
    render renderer projection =
      (draft renderer.dialect renderer.table projection).render renderer := by
  induction projection with
  | aggregate function argument distinct label grouped =>
    simp [render, draft, renderCall, Draft.render_lookupLast, renderArgument_eq]
  | rowCount label => simp [render, draft, renderCall, Draft.render_lookupLast]
  | property field label grouped => simp [render, draft]
  | expression inner label => simp [render, draft, Expression.render_eq]
  | list members each =>
    rw [render, draft, Draft.render_join, renderAll_eq renderer members each]

theorem renderGroups_eq (projections : List Projection)
    (each : ∀ projection ∈ projections, renderGroup renderer projection =
      (draftGroup renderer.dialect renderer.table projection).render renderer) :
    renderGroups renderer projections =
      (draftGroups renderer.dialect renderer.table projections).mapM (·.render renderer) := by
  induction projections with
  | nil => rfl
  | cons first rest ih =>
    have head := each first (List.mem_cons_self ..)
    have tail := ih fun projection member => each projection (List.mem_cons_of_mem _ member)
    rw [renderGroups, draftGroups]
    split
    · simp only [List.mapM_cons, head, tail]
    · exact tail

theorem renderGroup_eq (projection : Projection) :
    renderGroup renderer projection =
      (draftGroup renderer.dialect renderer.table projection).render renderer := by
  induction projection with
  | aggregate function argument distinct label grouped =>
    cases grouped <;>
      simp [renderGroup, draftGroup, renderCall, Renderer.aliased, Draft.render_lookupLast,
        renderArgument_eq]
  | rowCount label => simp [renderGroup, draftGroup]
  | property field label grouped => cases grouped <;> simp [renderGroup, draftGroup]
  | expression inner label => simp [renderGroup, draftGroup]
  | list members each =>
    rw [renderGroup, draftGroup, Draft.render_join, renderGroups_eq renderer members each]

end Projection

/-! ## Statements -/

theorem Draft.render_names (separator : String) (names : List String) :
    (join separator (names.map fun name => piece (.name name))).render renderer =
      pure (separator.intercalate (names.map renderer.dialect.quote)) := by
  have each : names.mapM ((·.render renderer) ∘ fun name => piece (.name name)) =
      pure (names.map renderer.dialect.quote) := by
    rw [← List.mapM_pure]
    congr 1
    funext name
    simp [Piece.render]
  rw [render_join, List.mapM_map, each, pure_bind]

@[simp] theorem Column.render_draft (column : Column) :
    column.draft.render renderer = pure (column.selectItem renderer.dialect) := by
  rw [draft, selectItem]
  split <;> simp [Piece.render, quotedName, String.append_assoc]

namespace Table

variable (table : Table) (catalog schema : Option String)

@[simp] theorem render_draftName :
    (table.draftName catalog schema).render renderer =
      pure (table.qualifiedName renderer.dialect catalog schema) :=
  Draft.render_names renderer "." _

@[simp] theorem render_draftAll :
    (table.draftAll catalog schema).render renderer =
      pure (table.selectAll renderer.dialect catalog schema) := by
  have items : table.columns.mapM ((·.render renderer) ∘ Column.draft) =
      pure (table.columns.map fun column => column.selectItem renderer.dialect) := by
    rw [← List.mapM_pure]
    congr 1
    funext column
    simp
  rw [draftAll, selectAll]
  cases none : table.columns.isEmpty <;>
    simp [Draft.render_join, items, String.append_assoc]

end Table

/-- A page is the select, its order and the window. -/
theorem Dialect.page_eq (dialect : Dialect) (sql : String) (order : Option String)
    (limit offset : UInt64) :
    dialect.page sql order limit offset =
      (match dialect.paging, order with
        | .offsetFetch, none => withOrder sql (some "ORDER BY (SELECT NULL)")
        | _, order => withOrder sql order) ++ dialect.windowText limit offset := by
  rw [page, windowText]
  cases dialect.paging with
  | limitOffset => dsimp only; split <;> simp [String.append_assoc]
  | limitPair => dsimp only; split <;> simp [String.append_assoc]
  | offsetFetch =>
    cases order with
    | none => simp only [withOrder, Option.getD_none, String.append_assoc]
    | some clause => simp only [withOrder, Option.getD_some, String.append_assoc]

namespace Query

variable (query : Query)

theorem selectText_eq (table : Table) :
    query.selectText table = (query.draftColumns table).render query.renderer := by
  rw [selectText, draftColumns]
  cases query.projection with
  | none => simp [renderer]
  | some projection =>
    simp only [Draft.render_append, Draft.render_text, Projection.render_eq]
    simp [renderer, String.append_assoc]

theorem whereText_eq : query.whereText = query.draftWhere.render query.renderer := by
  rw [whereText, draftWhere, Expression.renderAll_eq query.renderer query.conditions
    fun condition _ => Expression.render_eq query.renderer condition]
  split <;> simp [Draft.render_join, renderer]

theorem groupText_eq : query.groupText = query.draftGrouping.render query.renderer := by
  rw [groupText, draftGrouping]
  cases query.projection with
  | none => simp
  | some projection =>
    dsimp only
    rw [Projection.renderGroup_eq]
    split <;> simp [renderer]

theorem selectStatement_eq :
    query.selectStatement = query.draftSelect.render query.renderer := by
  rw [selectStatement, draftSelect]
  cases query.table with
  | none => simp
  | some table =>
    simp only [Draft.render_append, bind_assoc, pure_bind, selectText_eq,
      whereText_eq, groupText_eq, String.append_assoc]

theorem renderOrders_eq (orders : List Order) :
    query.renderOrders orders =
      (orders.map fun order => order.draft query.dialect query.table).mapM
        (·.render query.renderer) := by
  induction orders with
  | nil => rfl
  | cons first rest ih =>
    simp only [renderOrders, List.map_cons, List.mapM_cons, ih, Order.render_eq]
    rfl

/-- The order clause, rendered after the select. -/
theorem orderClause_eq : query.orderClause = (match query.draftOrder with
    | none => pure none
    | some order => do
      let order ← order.render query.renderer
      return some order) := by
  rw [orderClause, draftOrder, renderOrders_eq]
  split <;> simp [Draft.render_join]

theorem render_draftOrdered (select : Draft) (order : Option Draft) :
    (draftOrdered select order).render query.renderer = (do
      let select ← select.render query.renderer
      match order with
      | none => return select
      | some order => do
        let order ← order.render query.renderer
        return select ++ " " ++ order) := by
  cases order with
  | none => simp only [draftOrdered, bind_pure]
  | some order =>
    simp only [draftOrdered, Draft.render_append, Draft.render_text, bind_assoc, pure_bind]

theorem statement_eq : query.statement = (query.draft .full).render query.renderer := by
  rw [statement, draft, selectStatement_eq, orderClause_eq]
  cases query.window.limit with
  | none =>
    cases ordered : query.draftOrder <;> simp [render_draftOrdered, Dialect.withOrder]
  | some limit =>
    simp only [Dialect.page_eq, Dialect.windowOrder]
    cases ordered : query.draftOrder <;> cases query.dialect.paging <;>
      simp [render_draftOrdered, Dialect.withOrder, String.append_assoc]

theorem countStatement_eq :
    query.countStatement = (query.draft .count).render query.renderer := by
  simp [countStatement, draft, selectStatement_eq, String.append_assoc]

/-- Rendering a statement is rendering its draft. -/
theorem rendering_eq (kind : StatementKind) :
    query.rendering kind = (query.draft kind).render query.renderer := by
  cases kind with
  | full => exact query.statement_eq
  | count => exact query.countStatement_eq
  | select => exact query.selectStatement_eq

theorem render_eq (kind : StatementKind) :
    query.render kind = query.compile ((query.draft kind).render query.renderer) := by
  rw [render_eq_compile, rendering_eq]

end Query

end SqlQuery
