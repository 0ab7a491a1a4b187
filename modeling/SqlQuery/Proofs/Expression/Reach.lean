import SqlQuery.Proofs.Render.Actions

/-! # Reached nodes

Rendering a tree reaches its root and, from each node that it reaches, the parts of this node; the
operand of an empty list of values is not a part that is rendered. The actions of a tree are those
that the reached nodes do themselves.
-/

namespace SqlQuery

namespace Expression

/-- The parts that are rendered with a node. -/
def parts : Expression → List Expression
  | field _ | value _ | plain _ | property _ _ _ => []
  | simple left _ right | logical left _ right => [left, right]
  | not operand | notNull operand | null operand => [operand]
  | between operand lower upper => [operand, lower, upper]
  | like operand _ _ _ _ | ilike operand _ _ _ => [operand]
  | inValues operand values => if values.isEmpty then [] else operand :: values
  | junction _ members => members
  | function _ arguments => arguments

/-- What a node does itself, apart from its parts. -/
def own : Expression → List Action
  | value bound => [.value bound]
  | like _ pattern mode _ _ | ilike _ pattern mode _ => [.value (.text (mode.pattern pattern))]
  | function name _ => [.lookup name]
  | _ => []

/-- A node that is reached when a tree is rendered. -/
inductive Reaches (node : Expression) : Expression → Prop
  | root : Reaches node node
  | part {whole part : Expression} (member : part ∈ whole.parts) (below : Reaches node part) :
      Reaches node whole

theorem reaches_iff {node whole : Expression} :
    Reaches node whole ↔ node = whole ∨ ∃ part ∈ whole.parts, Reaches node part := by
  constructor
  · rintro (_ | ⟨member, below⟩)
    · exact .inl rfl
    · exact .inr ⟨_, member, below⟩
  · rintro (rfl | ⟨part, member, below⟩)
    · exact .root
    · exact .part member below

/-- A property that a node has if its parts have it is a property of all trees. -/
theorem induction_parts {motive : Expression → Prop}
    (step : ∀ whole : Expression, (∀ part ∈ whole.parts, motive part) → motive whole)
    (expression : Expression) : motive expression := by
  induction expression with
  | field | value | plain | property => exact step _ (by simp [parts])
  | simple _ _ _ left right | logical _ _ _ left right =>
    exact step _ (by simp [parts, left, right])
  | not _ operand | notNull _ operand | null _ operand => exact step _ (by simp [parts, operand])
  | between _ _ _ operand lower upper => exact step _ (by simp [parts, operand, lower, upper])
  | like _ _ _ _ _ operand => exact step _ (by simp [parts, operand])
  | ilike _ _ _ _ operand => exact step _ (by simp [parts, operand])
  | inValues _ values operand each =>
    refine step _ fun part member => ?_
    rw [parts] at member
    split at member
    · contradiction
    · rcases List.mem_cons.mp member with rfl | among
      · exact operand
      · exact each part among
  | junction _ _ each => exact step _ each
  | function _ _ each => exact step _ each

theorem mem_actions_iff_parts {action : Action} (whole : Expression) :
    action ∈ whole.actions ↔ action ∈ whole.own ∨ ∃ part ∈ whole.parts, action ∈ part.actions := by
  cases whole with
  | inValues operand values =>
    rw [actions, parts, actionsOfAll_eq_flatMap]
    split <;> simp [own]
  | like | ilike => simp [actions, parts, own, or_comm]
  | junction | function => simp [actions, parts, own, actionsOfAll_eq_flatMap]
  | _ => simp [actions, parts, own]

/-- The actions of a tree are those of the nodes that are reached. -/
theorem mem_actions_iff {action : Action} (tree : Expression) :
    action ∈ tree.actions ↔ ∃ node, Reaches node tree ∧ action ∈ node.own := by
  induction tree using induction_parts with
  | step whole each =>
    rw [mem_actions_iff_parts]
    constructor
    · rintro (here | ⟨part, member, below⟩)
      · exact ⟨whole, .root, here⟩
      · obtain ⟨node, reached, here⟩ := (each part member).mp below
        exact ⟨node, .part member reached, here⟩
    · rintro ⟨node, reached, here⟩
      rcases reaches_iff.mp reached with rfl | ⟨part, member, below⟩
      · exact .inl here
      · exact .inr ⟨part, member, (each part member).mpr ⟨node, below, here⟩⟩

theorem lookup_mem_own_iff {name : String} {node : Expression} :
    .lookup name ∈ node.own ↔ ∃ arguments, node = .function name arguments := by
  cases node <;> simp [own, eq_comm]

theorem float_mem_own_iff {number : Binary64} {node : Expression} :
    .value (.float number) ∈ node.own ↔ node = .value (.float number) := by
  cases node <;> simp [own, eq_comm]

end Expression

namespace Projection

/-- The expression that a projection renders. -/
def tree? : Projection → Option Expression
  | aggregate _ argument _ _ _ => some argument
  | expression inner _ => some inner
  | rowCount _ | property _ _ _ | list _ => none

/-- The function that a projection calls. -/
def function? : Projection → Option String
  | aggregate function _ _ _ _ => some function
  | rowCount _ => some "count"
  | expression _ _ | property _ _ _ | list _ => none

/-- A projection that is reached when another one is rendered. -/
inductive Reaches (node : Projection) : Projection → Prop
  | root : Reaches node node
  | member {members : List Projection} {member : Projection} (belongs : member ∈ members)
      (below : Reaches node member) : Reaches node (list members)

theorem mem_actions_iff {action : Action} (projection : Projection) :
    action ∈ projection.actions ↔ ∃ node, Reaches node projection ∧
      ((∃ tree ∈ node.tree?, action ∈ tree.actions) ∨
        ∃ function ∈ node.function?, action = .lookup function) := by
  induction projection with
  | list members each =>
    rw [actions, actionsOfAll_eq_flatMap, List.mem_flatMap]
    constructor
    · rintro ⟨member, belongs, done⟩
      obtain ⟨node, below, here⟩ := (each member belongs).mp done
      exact ⟨node, .member belongs below, here⟩
    · rintro ⟨node, _ | ⟨belongs, below⟩, here⟩
      · simp [tree?, function?] at here
      · exact ⟨_, belongs, (each _ belongs).mpr ⟨node, below, here⟩⟩
  | property =>
    constructor
    · exact fun done => absurd done List.not_mem_nil
    · rintro ⟨node, ⟨⟩, here⟩
      simp [tree?, function?] at here
  | aggregate | rowCount | expression =>
    constructor
    · exact fun done => ⟨_, .root, by simpa [actions, tree?, function?] using done⟩
    · rintro ⟨node, ⟨⟩, here⟩
      simpa [actions, tree?, function?] using here

/-- The grouping does nothing that the projection itself does not do. -/
theorem mem_actions_of_mem_groupActions {action : Action} (projection : Projection)
    (grouped : action ∈ projection.groupActions) : action ∈ projection.actions := by
  induction projection with
  | aggregate function argument distinct label chosen =>
    rw [groupActions] at grouped
    split at grouped
    · exact grouped
    · contradiction
  | rowCount | property | expression => contradiction
  | list members each =>
    rw [groupActions, groupActionsOfAll_eq_flatMap, List.mem_flatMap] at grouped
    obtain ⟨member, chosen, here⟩ := grouped
    have belongs := (List.mem_filter.mp chosen).1
    rw [actions, actionsOfAll_eq_flatMap, List.mem_flatMap]
    exact ⟨member, belongs, each member belongs here⟩

end Projection

/-! ## Statements -/

namespace Query

variable (query : Query) (kind : StatementKind)

/-- A node of an expression that is reached when a statement is rendered. -/
def Reaches (node : Expression) : Prop :=
  (∃ projection ∈ query.projection, ∃ selected, Projection.Reaches selected projection ∧
    ∃ tree ∈ selected.tree?, Expression.Reaches node tree) ∨
  (∃ condition ∈ query.conditions, Expression.Reaches node condition) ∨
  kind = .full ∧ ∃ order ∈ query.orders, Expression.Reaches node order.expression

/-- A function that is called in a node which is reached. -/
def Calls (function : String) : Prop :=
  (∃ projection ∈ query.projection, ∃ selected, Projection.Reaches selected projection ∧
    function ∈ selected.function?) ∨
  ∃ arguments, query.Reaches kind (.function function arguments)

theorem mem_actions_iff_trees {action : Action} :
    action ∈ query.actions kind ↔
      (∃ projection ∈ query.projection, action ∈ projection.actions) ∨
      (∃ condition ∈ query.conditions, action ∈ condition.actions) ∨
      kind = .full ∧ ∃ order ∈ query.orders, action ∈ order.expression.actions := by
  unfold actions
  rw [List.mem_append, List.mem_append, List.mem_append, List.mem_flatMap]
  constructor
  · rintro (((done | done) | done) | done)
    · cases projected : query.projection with
      | none => simp [projected] at done
      | some projection => exact .inl ⟨projection, rfl, by simpa [projected] using done⟩
    · exact .inr (.inl done)
    -- The grouping repeats some of the projection.
    · cases projected : query.projection with
      | none => simp [projected] at done
      | some projection =>
        simp only [projected] at done
        split at done
        · exact .inl ⟨projection, rfl, projection.mem_actions_of_mem_groupActions done⟩
        · exact absurd done List.not_mem_nil
    · cases kind with
      | full => exact .inr (.inr ⟨rfl, List.mem_flatMap.mp done⟩)
      | count | select => exact absurd done List.not_mem_nil
  · rintro (⟨projection, projected, done⟩ | done | ⟨rfl, done⟩)
    · exact .inl (.inl (.inl (by simpa [Option.mem_def.mp projected] using done)))
    · exact .inl (.inl (.inr done))
    · exact .inr (List.mem_flatMap.mpr done)

theorem mem_actions_iff {action : Action} :
    action ∈ query.actions kind ↔
      (∃ projection ∈ query.projection, ∃ selected, Projection.Reaches selected projection ∧
        ∃ function ∈ selected.function?, action = .lookup function) ∨
      ∃ node, query.Reaches kind node ∧ action ∈ node.own := by
  rw [mem_actions_iff_trees]
  constructor
  · rintro (⟨projection, is, done⟩ | ⟨condition, member, done⟩ | ⟨full, order, member, done⟩)
    · obtain ⟨selected, reached, ⟨tree, has, done⟩ | called⟩ := projection.mem_actions_iff.mp done
      · obtain ⟨node, below, here⟩ := tree.mem_actions_iff.mp done
        exact .inr ⟨node, .inl ⟨projection, is, selected, reached, tree, has, below⟩, here⟩
      · exact .inl ⟨projection, is, selected, reached, called⟩
    · obtain ⟨node, below, here⟩ := condition.mem_actions_iff.mp done
      exact .inr ⟨node, .inr (.inl ⟨condition, member, below⟩), here⟩
    · obtain ⟨node, below, here⟩ := order.expression.mem_actions_iff.mp done
      exact .inr ⟨node, .inr (.inr ⟨full, order, member, below⟩), here⟩
  · rintro (⟨projection, is, selected, reached, called⟩ | ⟨node, reached, here⟩)
    · exact .inl ⟨projection, is, projection.mem_actions_iff.mpr ⟨selected, reached, .inr called⟩⟩
    · rcases reached with ⟨projection, is, selected, reached, tree, has, below⟩ |
        ⟨condition, member, below⟩ | ⟨full, order, member, below⟩
      · have done := tree.mem_actions_iff.mpr ⟨node, below, here⟩
        exact .inl ⟨projection, is,
          projection.mem_actions_iff.mpr ⟨selected, reached, .inl ⟨tree, has, done⟩⟩⟩
      · exact .inr (.inl ⟨condition, member, condition.mem_actions_iff.mpr ⟨node, below, here⟩⟩)
      · exact .inr (.inr ⟨full, order, member,
          order.expression.mem_actions_iff.mpr ⟨node, below, here⟩⟩)

theorem lookup_mem_actions_iff {function : String} :
    .lookup function ∈ query.actions kind ↔ query.Calls kind function := by
  rw [mem_actions_iff, Calls]
  refine or_congr (by simp) ⟨?_, ?_⟩
  · rintro ⟨node, reached, here⟩
    obtain ⟨arguments, rfl⟩ := Expression.lookup_mem_own_iff.mp here
    exact ⟨arguments, reached⟩
  · rintro ⟨arguments, reached⟩
    exact ⟨_, reached, Expression.lookup_mem_own_iff.mpr ⟨arguments, rfl⟩⟩

theorem float_mem_actions_iff {number : Binary64} :
    .value (.float number) ∈ query.actions kind ↔ query.Reaches kind (.value (.float number)) := by
  simp [mem_actions_iff, Expression.float_mem_own_iff]

end Query

end SqlQuery
