import SqlQuery.Proofs.Expression.Induction
import SqlQuery.Proofs.Render.Draft

/-! # What rendering does in turn

Beside its text, a rendering takes values in and looks functions up, one after the other. These
actions are read off the trees alone; the dialect only decides at which look-up they stop. The
draft of a statement has the values that were taken in by then, and the missing function as its
failure.
-/

namespace SqlQuery

inductive Action
  /-- Binds or inlines a value. -/
  | value (bound : Value)
  /-- Looks a function up. -/
  | lookup (function : String)
  deriving DecidableEq, Repr

mutual

def Expression.actions : Expression → List Action
  | .value bound => [.value bound]
  | .field _ | .plain _ | .property _ _ _ => []
  | .simple left _ right | .logical left _ right => left.actions ++ right.actions
  | .not operand | .notNull operand | .null operand => operand.actions
  | .between operand lower upper => operand.actions ++ lower.actions ++ upper.actions
  | .like operand pattern mode _ _ | .ilike operand pattern mode _ =>
    operand.actions ++ [.value (.text (mode.pattern pattern))]
  | .inValues operand values =>
    if values.isEmpty then [] else operand.actions ++ actionsOfAll values
  | .junction _ members => actionsOfAll members
  | .function name arguments => .lookup name :: actionsOfAll arguments

def Expression.actionsOfAll : List Expression → List Action
  | [] => []
  | expression :: rest => expression.actions ++ actionsOfAll rest

end

theorem Expression.actionsOfAll_eq_flatMap (expressions : List Expression) :
    actionsOfAll expressions = expressions.flatMap actions := by
  induction expressions with
  | nil => rfl
  | cons first rest ih => rw [actionsOfAll, ih, List.flatMap_cons]

namespace Projection

mutual

def actions : Projection → List Action
  | aggregate function argument _ _ _ => argument.actions ++ [.lookup function]
  | rowCount _ => [.lookup "count"]
  | property _ _ _ => []
  | expression inner _ => inner.actions
  | list members => actionsOfAll members

def actionsOfAll : List Projection → List Action
  | [] => []
  | projection :: rest => projection.actions ++ actionsOfAll rest

end

mutual

/-- What the grouping does: the grouped leaves are rendered once more. -/
def groupActions : Projection → List Action
  | aggregate function argument _ _ grouped =>
    if grouped then argument.actions ++ [.lookup function] else []
  | rowCount _ | property _ _ _ | expression _ _ => []
  | list members => groupActionsOfAll members

def groupActionsOfAll : List Projection → List Action
  | [] => []
  | projection :: rest =>
    if projection.isGrouped then projection.groupActions ++ groupActionsOfAll rest
    else groupActionsOfAll rest

end

end Projection

/-- What the statements of a query do. The orders are rendered in the full statement only. -/
def Query.actions (query : Query) (kind : StatementKind) : List Action :=
  let projected := (query.projection.map Projection.actions).getD []
  let conditions := query.conditions.flatMap Expression.actions
  let grouped := match query.projection with
    | some projection => if projection.isGrouped then projection.groupActions else []
    | none => []
  let ordered := match kind with
    | .full => query.orders.flatMap fun order => order.expression.actions
    | .count | .select => []
  projected ++ conditions ++ grouped ++ ordered

/-! ## How far a dialect comes -/

namespace Dialect

variable (dialect : Dialect)

/-- The failure at the first function that the dialect does not have. -/
def missing? : List Action → Option RenderError
  | [] => none
  | .value _ :: rest => missing? rest
  | .lookup function :: rest =>
    if dialect.functions.contains function then missing? rest
    else some (.functionNotFound function dialect.name)

/-- The values taken in before the first function that the dialect does not have. -/
def taken : List Action → List Value
  | [] => []
  | .value bound :: rest => bound :: taken rest
  | .lookup function :: rest => if dialect.functions.contains function then taken rest else []

variable {dialect}

theorem missing?_append (before after : List Action) :
    dialect.missing? (before ++ after) = (dialect.missing? before).or (dialect.missing? after) := by
  induction before with
  | nil => rfl
  | cons action rest ih =>
    cases action with
    | value bound => exact ih
    | lookup function =>
      rw [List.cons_append, missing?, missing?]
      split
      · exact ih
      · rfl

theorem taken_append_of_missing {before : List Action} {cause : RenderError}
    (stopped : dialect.missing? before = some cause) (after : List Action) :
    dialect.taken (before ++ after) = dialect.taken before := by
  induction before with
  | nil => contradiction
  | cons action rest ih =>
    cases action with
    | value bound => exact congrArg (bound :: ·) (ih stopped)
    | lookup function =>
      rw [missing?] at stopped
      rw [List.cons_append, taken, taken]
      split at stopped
      · rename_i known
        rw [if_pos known, if_pos known, ih stopped]
      · rename_i unknown
        rw [if_neg unknown, if_neg unknown]

theorem taken_append_of_complete {before : List Action} (complete : dialect.missing? before = none)
    (after : List Action) :
    dialect.taken (before ++ after) = dialect.taken before ++ dialect.taken after := by
  induction before with
  | nil => rfl
  | cons action rest ih =>
    cases action with
    | value bound => exact congrArg (bound :: ·) (ih complete)
    | lookup function =>
      rw [missing?] at complete
      rw [List.cons_append, taken, taken]
      split at complete
      · rename_i known
        rw [if_pos known, if_pos known, ih complete]
      · contradiction

end Dialect

/-! ## Drafts -/

/-- A draft with the values taken in by some actions, and with their failure. -/
structure Draft.Follows (dialect : Dialect) (actions : List Action) (draft : Draft) : Prop where
  values : draft.pieces.values = dialect.taken actions
  failure : draft.failure = dialect.missing? actions

namespace Draft.Follows

variable {dialect : Dialect} {before after actions : List Action} {first second draft : Draft}

theorem blank : Draft.blank.Follows dialect [] := ⟨rfl, rfl⟩

theorem text (sql : String) : (Draft.text sql).Follows dialect [] := ⟨rfl, rfl⟩

theorem name (identifier : String) : (Draft.piece (.name identifier)).Follows dialect [] :=
  ⟨rfl, rfl⟩

theorem value (bound : Value) : (Draft.value bound).Follows dialect [.value bound] := ⟨rfl, rfl⟩

theorem append (left : first.Follows dialect before) (right : second.Follows dialect after) :
    (first ++ second).Follows dialect (before ++ after) := by
  change (Draft.append _ _).Follows dialect _
  rw [Draft.append, left.failure]
  cases stopped : dialect.missing? before with
  | none =>
    constructor
    · rw [Dialect.taken_append_of_complete stopped, ← left.values, ← right.values]
      exact List.filterMap_append
    · rw [Dialect.missing?_append, stopped, right.failure]
      rfl
  | some cause =>
    constructor
    · rw [Dialect.taken_append_of_missing stopped, ← left.values]
    · rw [Dialect.missing?_append, stopped]
      rfl

/-- Text after a draft does nothing. -/
theorem closing (follows : draft.Follows dialect actions) (sql : String) :
    (draft ++ Draft.text sql : Draft).Follows dialect actions := by
  simpa using follows.append (text sql)

/-- Text between two drafts does nothing. -/
theorem parted (left : first.Follows dialect before) (sql : String)
    (right : second.Follows dialect after) :
    (first ++ Draft.text sql ++ second : Draft).Follows dialect (before ++ after) :=
  (left.closing sql).append right

/-- Text around a draft does nothing. -/
theorem enclosed (opening : String) (follows : draft.Follows dialect actions) (closing : String) :
    (Draft.text opening ++ draft ++ Draft.text closing : Draft).Follows dialect actions :=
  ((text opening).append follows).closing closing

theorem join (separator : String) {α : Type} {drafted : α → Draft} {acted : α → List Action}
    {members : List α}
    (each : ∀ member ∈ members, (drafted member).Follows dialect (acted member)) :
    (Draft.join separator (members.map drafted)).Follows dialect (members.flatMap acted) := by
  induction members with
  | nil => exact blank
  | cons first rest ih =>
    obtain ⟨head, tail⟩ := List.forall_mem_cons.mp each
    have others := ih tail
    cases rest with
    | nil => simpa [Draft.join] using head
    | cons second others' => exact head.parted separator others

/-- Members that do nothing do nothing together. -/
theorem join_idle (separator : String) {α : Type} {drafted : α → Draft} {members : List α}
    (each : ∀ member ∈ members, (drafted member).Follows dialect []) :
    (Draft.join separator (members.map drafted)).Follows dialect [] := by
  have idle : (members.flatMap fun _ => ([] : List Action)) = [] := by simp
  simpa only [idle] using join separator each

theorem dropped (follows : draft.Follows dialect actions) :
    draft.dropped.Follows dialect actions := by
  refine ⟨?_, follows.failure⟩
  rw [← follows.values, Draft.dropped, Template.values, Template.values, List.filterMap_filterMap]
  congr 1
  funext piece
  cases piece <;> rfl

theorem field (table : Option Table) (name : String) :
    (Draft.field table name).Follows dialect [] := by
  rw [Draft.field]
  split
  · exact .name _
  · exact .text name

theorem operation (operator : String) (left : first.Follows dialect before)
    (right : second.Follows dialect after) :
    (Draft.operation first operator second).Follows dialect (before ++ after) :=
  (((text "(").append left).parted _ right).closing ")"

theorem lowered (follows : draft.Follows dialect actions) :
    (Draft.lowered dialect draft).Follows dialect actions :=
  follows.enclosed _ ")"

theorem escaped (follows : draft.Follows dialect actions) (escape : Option Char) :
    (Draft.escaped draft escape).Follows dialect actions := by
  cases escape with
  | none => exact follows
  | some c =>
    have quoted : (Draft.piece (.quoted (String.singleton c))).Follows dialect [] := ⟨rfl, rfl⟩
    have whole := (follows.closing " escape ").append quoted
    rwa [List.append_nil] at whole

theorem aliased (follows : draft.Follows dialect actions) (label : Option String) :
    (Draft.aliased draft label).Follows dialect actions := by
  cases label with
  | none => exact follows
  | some label =>
    rw [Draft.aliased]
    split
    · exact follows
    · simpa using follows.parted " AS " (.name label)

/-- Whatever the form of a function is, its arguments are rendered. -/
theorem call (function : SqlFunction) {arguments : List Draft}
    (joined : ∀ separator, (Draft.join separator arguments).Follows dialect actions) :
    (Draft.call function arguments).Follows dialect actions := by
  cases function with
  | call name => exact (joined ", ").enclosed _ ")"
  | constant sql => exact (joined "").dropped.closing sql
  | enclosing opening separator closing => exact (joined separator).enclosed opening closing

theorem lookupFirst (name : String) {arguments : List Draft}
    (joined : ∀ separator, (Draft.join separator arguments).Follows dialect actions) :
    (Draft.lookupFirst dialect name arguments).Follows dialect (.lookup name :: actions) := by
  rw [Draft.lookupFirst]
  cases found : dialect.functions.find? name with
  | some function =>
    have called := call function joined
    have known : dialect.functions.contains name = true := by rw [Functions.contains, found]; rfl
    exact ⟨by rw [Dialect.taken, if_pos known, called.values],
      by rw [Dialect.missing?, if_pos known, called.failure]⟩
  | none =>
    have unknown : dialect.functions.contains name = false := by rw [Functions.contains, found]; rfl
    exact ⟨by rw [Dialect.taken, unknown]; rfl, by rw [Dialect.missing?, unknown]; rfl⟩

theorem lookupLast (name : String) {arguments : List Draft}
    (joined : ∀ separator, (Draft.join separator arguments).Follows dialect actions) :
    (Draft.lookupLast dialect name arguments).Follows dialect (actions ++ [.lookup name]) := by
  rw [Draft.lookupLast]
  cases found : dialect.functions.find? name with
  | some function =>
    have known : dialect.functions.contains name = true := by rw [Functions.contains, found]; rfl
    have looked : Draft.blank.Follows dialect [.lookup name] :=
      ⟨by rw [Dialect.taken, if_pos known]; rfl, by rw [Dialect.missing?, if_pos known]; rfl⟩
    simpa using (call function joined).append looked
  | none =>
    have unknown : dialect.functions.contains name = false := by rw [Functions.contains, found]; rfl
    refine (joined "").append ⟨?_, ?_⟩
    · rw [Dialect.taken, unknown]
      rfl
    · rw [Dialect.missing?, unknown]
      rfl

end Draft.Follows

/-! ## Trees -/

section

variable (dialect : Dialect) (table : Option Table)

theorem Expression.follows_join (separator : String) {expressions : List Expression}
    (each : ∀ member ∈ expressions, (member.draft dialect table).Follows dialect member.actions) :
    (Draft.join separator (Expression.draftAll dialect table expressions)).Follows dialect
      (Expression.actionsOfAll expressions) := by
  rw [draftAll_eq_map, actionsOfAll_eq_flatMap]
  exact .join separator each

theorem Expression.follows_draft (expression : Expression) :
    (expression.draft dialect table).Follows dialect expression.actions := by
  induction expression with
  | field name => exact .field table name
  | value bound => exact .value bound
  | plain sql => exact .text sql
  | simple left operator right left_follows right_follows =>
    exact .operation operator left_follows right_follows
  | logical left operator right left_follows right_follows =>
    exact .operation operator left_follows right_follows
  | property left operator right =>
    exact .operation operator (.field table left) (.field table right)
  | not operand follows =>
    rw [Expression.draft, Expression.actions]
    split
    · exact follows.enclosed "not (" ")"
    · exact (Draft.Follows.text "not ").append follows
  | notNull operand follows => exact follows.closing _
  | null operand follows => exact follows.closing _
  | between operand lower upper follows lower_follows upper_follows =>
    exact (follows.parted " between " lower_follows).parted " and " upper_follows
  | like operand pattern mode escape ignoreCase follows =>
    refine .escaped (.parted ?_ " like " (.value _)) escape
    cases ignoreCase with
    | true => exact follows.lowered
    | false => exact follows
  | ilike operand pattern mode escape follows =>
    refine .escaped (.append ?_ (.value _)) escape
    split
    · exact follows.closing _
    · exact follows.lowered.closing _
  | inValues operand values follows each =>
    rw [Expression.draft, Expression.actions]
    split
    · exact .text "1=0"
    · exact (follows.parted " in (" (follows_join dialect table ", " each)).closing ")"
  | junction connective members each =>
    rw [Expression.draft, Expression.actions]
    split
    · rename_i empty
      rw [List.isEmpty_iff.mp empty]
      exact .text "1=1"
    · exact (follows_join dialect table _ each).enclosed "(" ")"
  | function name arguments each =>
    exact .lookupFirst name fun separator => follows_join dialect table separator each

namespace Projection

theorem follows_draftArgument (argument : Expression) (distinct : Bool) (separator : String) :
    (Draft.join separator [draftArgument dialect table argument distinct]).Follows dialect
      argument.actions := by
  have follows := argument.follows_draft dialect table
  cases distinct with
  | true => exact (Draft.Follows.text "distinct ").append follows
  | false => exact follows

theorem actionsOfAll_eq_flatMap (projections : List Projection) :
    actionsOfAll projections = projections.flatMap actions := by
  induction projections with
  | nil => rfl
  | cons first rest ih => rw [actionsOfAll, ih, List.flatMap_cons]

theorem groupActionsOfAll_eq_flatMap (projections : List Projection) :
    groupActionsOfAll projections = (projections.filter isGrouped).flatMap groupActions := by
  induction projections with
  | nil => rfl
  | cons first rest ih =>
    rw [groupActionsOfAll, ih, List.filter_cons]
    split <;> rfl

theorem follows_draft (projection : Projection) :
    (projection.draft dialect table).Follows dialect projection.actions := by
  induction projection with
  | aggregate function argument distinct label grouped =>
    exact (Draft.Follows.lookupLast function
      (follows_draftArgument dialect table argument distinct)).aliased label
  | rowCount label =>
    have star (separator : String) :
        (Draft.join separator [.text "*"]).Follows dialect [] := .text "*"
    exact (Draft.Follows.lookupLast "count" star).aliased label
  | property field label grouped => exact (Draft.Follows.field table field).aliased label
  | expression inner label => exact (inner.follows_draft dialect table).aliased label
  | list members each =>
    rw [draft, actions, draftAll_eq_map, actionsOfAll_eq_flatMap]
    exact .join ", " each

theorem follows_draftGroup (projection : Projection) :
    (projection.draftGroup dialect table).Follows dialect projection.groupActions := by
  induction projection with
  | aggregate function argument distinct label grouped =>
    rw [draftGroup, groupActions]
    split
    · exact .lookupLast function (follows_draftArgument dialect table argument distinct)
    · exact .blank
  | property field label grouped =>
    rw [draftGroup]
    split
    · exact .field table field
    · exact .blank
  | rowCount | expression => exact .blank
  | list members each =>
    rw [draftGroup, groupActions, draftGroups_eq_map, groupActionsOfAll_eq_flatMap]
    exact .join ", " fun member belongs => each member (List.mem_filter.mp belongs).1

end Projection

end

/-! ## Statements -/

namespace Table

variable (dialect : Dialect) (table : Table) (catalog schema : Option String)

theorem follows_draftName : (table.draftName catalog schema).Follows dialect [] :=
  .join_idle "." fun name _ => .name name

theorem follows_draftAll : (table.draftAll catalog schema).Follows dialect [] := by
  have item (column : Column) : column.draft.Follows dialect [] := by
    rw [Column.draft]
    split
    · exact .name _
    · exact (Draft.Follows.name _).parted " AS " (.name _)
  have columns : (if table.columns.isEmpty then Draft.text "*"
      else .join ", " (table.columns.map (·.draft))).Follows dialect [] := by
    split
    · exact .text "*"
    · exact .join_idle ", " fun column _ => item column
  exact ((Draft.Follows.text "SELECT ").append columns).parted " FROM "
    (table.follows_draftName dialect catalog schema)

end Table

namespace Query

variable (query : Query)

theorem follows_draftColumns (table : Table) :
    (query.draftColumns table).Follows query.dialect
      ((query.projection.map Projection.actions).getD []) := by
  rw [draftColumns]
  cases query.projection with
  | none => exact table.follows_draftAll _ _ _
  | some projection =>
    simpa using ((Draft.Follows.text "SELECT ").append
      (projection.follows_draft query.dialect query.table)).parted " FROM "
      (table.follows_draftName _ _ _)

theorem follows_draftWhere :
    query.draftWhere.Follows query.dialect (query.conditions.flatMap Expression.actions) := by
  have joined := Expression.follows_join query.dialect query.table " AND "
    fun condition (_ : condition ∈ query.conditions) =>
      condition.follows_draft query.dialect query.table
  rw [Expression.actionsOfAll_eq_flatMap] at joined
  rw [draftWhere]
  split
  · rename_i empty
    rw [List.isEmpty_iff.mp empty]
    exact .blank
  · exact (Draft.Follows.text " WHERE ").append joined

theorem follows_draftGrouping :
    query.draftGrouping.Follows query.dialect (match query.projection with
      | some projection => if projection.isGrouped then projection.groupActions else []
      | none => []) := by
  rw [draftGrouping]
  cases query.projection with
  | none => exact .blank
  | some projection =>
    dsimp only
    split
    · exact (Draft.Follows.text " GROUP BY ").append
        (projection.follows_draftGroup query.dialect query.table)
    · exact .blank

theorem follows_draftSelect (mapped : query.table.isSome) :
    query.draftSelect.Follows query.dialect (query.actions .select) := by
  obtain ⟨table, found⟩ := Option.isSome_iff_exists.mp mapped
  rw [draftSelect, found]
  simpa [actions] using ((query.follows_draftColumns table).append query.follows_draftWhere).append
    query.follows_draftGrouping

theorem follows_draftOrder {order : Draft} (ordered : query.draftOrder = some order) :
    order.Follows query.dialect (query.orders.flatMap fun order => order.expression.actions) := by
  rw [draftOrder] at ordered
  split at ordered
  · contradiction
  · obtain rfl := Option.some.inj ordered
    refine (Draft.Follows.text "ORDER BY ").append (.join ", " ?_)
    intro order _
    exact (order.expression.follows_draft query.dialect query.table).closing _

theorem follows_draftOrdered {select : Draft} {before after : List Action} {order : Option Draft}
    (selects : select.Follows query.dialect before)
    (orders : ∀ clause ∈ order, clause.Follows query.dialect after)
    (unordered : order = none → after = []) :
    (draftOrdered select order).Follows query.dialect (before ++ after) := by
  cases order with
  | none =>
    rw [unordered rfl, List.append_nil]
    exact selects
  | some clause => exact selects.parted " " (orders clause rfl)

/-- The order of a window does what the order terms do. -/
theorem follows_windowOrder {order : Draft}
    (ordered : query.dialect.windowOrder query.draftOrder = some order) :
    order.Follows query.dialect (query.orders.flatMap fun order => order.expression.actions) := by
  cases terms : query.draftOrder with
  | none =>
    rw [query.orders_eq_nil_of_draftOrder terms]
    rw [terms] at ordered
    unfold Dialect.windowOrder at ordered
    split at ordered
    · obtain rfl := Option.some.inj ordered
      exact .text _
    · contradiction
  | some clause =>
    rw [terms, Dialect.windowOrder] at ordered
    · obtain rfl := Option.some.inj ordered
      exact query.follows_draftOrder terms
    · intro _ none
      contradiction

theorem draftOrder_of_windowOrder (unordered : query.dialect.windowOrder query.draftOrder = none) :
    query.draftOrder = none := by
  unfold Dialect.windowOrder at unordered
  split at unordered
  · contradiction
  · exact unordered

/-- The draft of a statement takes in the values of its actions, up to the first function that the
dialect does not have. -/
theorem follows_draft (mapped : query.table.isSome) (kind : StatementKind) :
    (query.draft kind).Follows query.dialect (query.actions kind) := by
  have select := query.follows_draftSelect mapped
  cases kind with
  | select => exact select
  | count => exact select.enclosed _ ") t"
  | full =>
    have whole : query.actions .full = query.actions .select ++
        query.orders.flatMap fun order => order.expression.actions := by simp [actions]
    rw [whole, draft]
    split
    · refine .closing (query.follows_draftOrdered select ?_ ?_) _
      · exact fun clause ordered => query.follows_windowOrder ordered
      · intro unordered
        rw [query.orders_eq_nil_of_draftOrder (query.draftOrder_of_windowOrder unordered)]
        rfl
    · refine query.follows_draftOrdered select ?_ ?_
      · exact fun clause ordered => query.follows_draftOrder ordered
      · intro unordered
        rw [query.orders_eq_nil_of_draftOrder unordered]
        rfl

/-- Without a table, a statement fails before it takes a value in. -/
theorem draft_of_unmapped (unmapped : query.table = none) (kind : StatementKind) :
    (query.draft kind).pieces.values = [] ∧
      (query.draft kind).failure = some (.unmappedEntity query.target.entity) := by
  have select : query.draftSelect = .failed (.unmappedEntity query.target.entity) := by
    rw [draftSelect, unmapped]
  have ordered (order : Option Draft) :
      draftOrdered query.draftSelect order = .failed (.unmappedEntity query.target.entity) := by
    rw [select]
    cases order <;> rfl
  cases kind with
  | select => rw [draft, select]; exact ⟨rfl, rfl⟩
  | count => rw [draft, select]; exact ⟨rfl, rfl⟩
  | full =>
    rw [draft, ordered, ordered]
    split <;> exact ⟨rfl, rfl⟩

end Query

end SqlQuery
