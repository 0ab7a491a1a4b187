import SqlQuery.Proofs.Render.Modes

/-! # The core of three statements

The full statement, the count and the select of a query are rendered apart, each from fresh bindings.
They start with the same select, so the values of the select have the same numbers in all three; the
values of the order come after them.
-/

namespace SqlQuery

/-! ## Successful renderings -/

theorem Rendering.exists_of_run_bind {α β : Type} {first : Rendering α} {next : α → Rendering β}
    {before after : Bindings} {result : β}
    (run : (first >>= next).run before = (.ok result, after)) :
    ∃ middle between, first.run before = (.ok middle, between) ∧
      (next middle).run between = (.ok result, after) := by
  change StateT.run (first >>= next).run before = _ at run
  rw [ExceptT.run_bind, StateT.run_bind] at run
  cases step : StateT.run first.run before with
  | mk outcome between =>
    rw [step] at run
    cases outcome with
    | error cause => cases run
    | ok middle => exact ⟨middle, between, step, run⟩

theorem Rendering.run_bind_error {α β : Type} {first : Rendering α} {next : α → Rendering β}
    {before after : Bindings} {cause : RenderError}
    (run : first.run before = (.error cause, after)) :
    (first >>= next).run before = (.error cause, after) := by
  have step : StateT.run first.run before = (.error cause, after) := run
  change StateT.run (first >>= next).run before = _
  rw [ExceptT.run_bind, StateT.run_bind, step]
  rfl

/-- What a renderer binds of the values of a draft. -/
def Renderer.bound (renderer : Renderer) (values : List Value) : List Value :=
  if renderer.parameterized then values else []

/-- A draft that can be rendered to its end. -/
structure Draft.Complete (draft : Draft) (renderer : Renderer) : Prop where
  failure : draft.failure = none
  literals : renderer.parameterized = false → ∀ value ∈ draft.pieces.values,
    renderer.literal value = .ok (renderer.literalText value)

namespace Draft.Complete

variable {draft : Draft} {renderer : Renderer} {before after : Bindings} {values : List Value}

/-- Whether a rendering ends does not depend on the bindings made before it, and it binds its values
after theirs. -/
theorem run (complete : draft.Complete renderer) (automatic : before.Automatic values) :
    ∃ text after, (draft.render renderer).run before = (.ok text, after) ∧
      after.Automatic (values ++ renderer.bound draft.pieces.values) := by
  have ended {text : String} {after : Bindings}
      (run : (Template.render renderer draft.pieces).run before = (.ok text, after)) :
      (draft.render renderer).run before = (.ok text, after) := by
    rw [Draft.render, Rendering.run_bind_ok run, complete.failure]
    rfl
  cases mode : renderer.parameterized with
  | true =>
    obtain ⟨after, run, held⟩ := Template.run_parameterized renderer mode draft.pieces automatic
    exact ⟨_, after, ended run, by simpa only [Renderer.bound, mode, if_true] using held⟩
  | false =>
    obtain ⟨texts, all⟩ := (renderer.mapM_literal_eq_ok_iff _).mpr (complete.literals mode)
    have run := Template.render_literal renderer mode draft.pieces 0
    rw [all] at run
    exact ⟨_, before, ended (congrArg (·.run before) run),
      by simpa [Renderer.bound, mode] using automatic⟩

theorem of_run {text : String} (run : (draft.render renderer).run before = (.ok text, after)) :
    draft.Complete renderer := by
  obtain ⟨filled, between, ran, ended⟩ := Rendering.exists_of_run_bind run
  constructor
  · cases failure : draft.failure with
    | none => rfl
    | some cause =>
      rw [failure] at ended
      cases ended
  · intro mode
    rw [← renderer.mapM_literal_eq_ok_iff]
    rw [Template.render_literal renderer mode _ 0] at ran
    cases literals : draft.pieces.values.mapM renderer.literal with
    | ok texts => exact ⟨texts, rfl⟩
    | error cause =>
      rw [literals] at ran
      cases ran

/-- A rendering that ends binds its values after those bound before. -/
theorem automatic_of_run {text : String} (automatic : before.Automatic values)
    (ran : (draft.render renderer).run before = (.ok text, after)) :
    after.Automatic (values ++ renderer.bound draft.pieces.values) := by
  obtain ⟨_, _, again, held⟩ := (of_run ran).run automatic
  cases ran.symm.trans again
  exact held

end Draft.Complete

namespace Query

variable (query : Query)

/-- The bindings that a rendering starts with. -/
def freshBindings : Bindings :=
  { marker := query.dialect.marker }

/-- What the order terms bind, in order. -/
def orderValues : List Value :=
  query.renderer.bound
    (query.orders.flatMap fun order => (order.draft query.dialect query.table).pieces.values)

theorem values_draftOrder {clause : Draft} (ordered : query.draftOrder = some clause)
    (complete : clause.failure = none) : query.renderer.bound clause.pieces.values =
      query.orderValues := by
  rw [draftOrder] at ordered
  split at ordered
  · contradiction
  · cases ordered
    have terms := (Draft.failure_append.mp complete).2
    rw [Draft.values_append rfl, Draft.values_join terms, List.flatMap_map]
    rfl

theorem orderValues_of_unordered (unordered : query.draftOrder = none) : query.orderValues = [] := by
  rw [orderValues, query.orders_eq_nil_of_draftOrder unordered, Renderer.bound]
  exact ite_self _

/-- The order terms bind their values after those bound before. -/
theorem automatic_of_run_orderClause {before after : Bindings} {values : List Value}
    (automatic : before.Automatic values) {order : Option String}
    (run : query.orderClause.run before = (.ok order, after)) :
    after.Automatic (values ++ query.orderValues) := by
  rw [orderClause_eq] at run
  cases terms : query.draftOrder with
  | none =>
    rw [terms] at run
    cases run
    rwa [query.orderValues_of_unordered terms, List.append_nil]
  | some clause =>
    rw [terms] at run
    obtain ⟨text, between, ran, ended⟩ := Rendering.exists_of_run_bind run
    cases ended
    rw [← query.values_draftOrder terms (Draft.Complete.of_run ran).failure]
    exact Draft.Complete.automatic_of_run automatic ran

end Query

namespace Bindings.Automatic

variable {bindings whole : Bindings} {values more : List Value}

theorem contains_iff (automatic : bindings.Automatic values) (name : String) :
    bindings.values.contains name ↔ ∃ index < values.length, name = automaticName index := by
  rw [Dictionary.contains, Option.isSome_iff_exists]
  constructor
  · rintro ⟨value, found⟩
    obtain ⟨index, same, bound⟩ := (automatic.find_iff name value).mp found
    exact ⟨index, (List.getElem?_eq_some_iff.mp bound).1, same⟩
  · rintro ⟨index, inside, rfl⟩
    exact ⟨_, (automatic.find_automaticName index).trans (List.getElem?_eq_getElem inside)⟩

/-- Later bindings leave the names bound before. -/
theorem find_of_contains (automatic : bindings.Automatic values)
    (later : whole.Automatic (values ++ more)) {name : String}
    (bound : bindings.values.contains name) :
    whole.values.find? name = bindings.values.find? name := by
  obtain ⟨index, inside, rfl⟩ := (automatic.contains_iff name).mp bound
  rw [later.find_automaticName, automatic.find_automaticName, List.getElem?_append_left inside]

/-- Later bindings are numbered on from those made before. -/
theorem find_iff_of_not_contains (automatic : bindings.Automatic values)
    (later : whole.Automatic (values ++ more)) {name : String}
    (absent : ¬ bindings.values.contains name) (value : Value) :
    whole.values.find? name = some value ↔
      ∃ index, name = automaticName (bindings.values.size + index) ∧ more[index]? = some value := by
  rw [automatic.size_eq, later.find_iff]
  constructor
  · rintro ⟨index, rfl, found⟩
    have beyond : values.length ≤ index := Nat.not_lt.mp fun inside =>
      absent ((automatic.contains_iff _).mpr ⟨index, inside, rfl⟩)
    refine ⟨index - values.length, by rw [Nat.add_sub_cancel' beyond], ?_⟩
    rwa [List.getElem?_append_right beyond] at found
  · rintro ⟨index, rfl, found⟩
    refine ⟨values.length + index, rfl, ?_⟩
    rwa [List.getElem?_append_right (Nat.le_add_right ..), Nat.add_sub_cancel_left]

end Bindings.Automatic

namespace Dialect

theorem exists_withOrder_eq (sql : String) (order : Option String) :
    ∃ suffix, withOrder sql order = sql ++ suffix := by
  cases order with
  | none => exact ⟨"", by simp [withOrder]⟩
  | some clause => exact ⟨" " ++ clause, by simp [withOrder, String.append_assoc]⟩

/-- Paging leaves the select in front. -/
theorem exists_page_eq (dialect : Dialect) (sql : String) (order : Option String)
    (limit offset : UInt64) : ∃ suffix, dialect.page sql order limit offset = sql ++ suffix := by
  have paged (order : Option String) :
      ∃ suffix, withOrder sql order ++ dialect.windowText limit offset = sql ++ suffix := by
    obtain ⟨suffix, eq⟩ := exists_withOrder_eq sql order
    exact ⟨suffix ++ dialect.windowText limit offset, by rw [eq, String.append_assoc]⟩
  rw [page_eq]
  split <;> exact paged _

end Dialect

namespace Query

variable (query : Query)

theorem compile_of_run {rendering : Rendering String} {sql : String} {after : Bindings}
    (run : rendering.run query.freshBindings = (.ok sql, after)) :
    query.compile rendering = (.ok sql, { query with parameters := after.values }) := by
  have step : (ExceptT.run rendering : StateM Bindings _) { marker := query.dialect.marker } = _ := run
  rw [compile, step]

theorem compile_of_failure {rendering : Rendering String} {cause : RenderError} {after : Bindings}
    (run : rendering.run query.freshBindings = (.error cause, after)) :
    query.compile rendering = (.error cause, query) := by
  have step : (ExceptT.run rendering : StateM Bindings _) { marker := query.dialect.marker } = _ := run
  rw [compile, step]

theorem compile_fst (rendering : Rendering String) :
    (query.compile rendering).1 = (rendering.run query.freshBindings).1 := by
  cases run : rendering.run query.freshBindings with
  | mk outcome after =>
    cases outcome with
    | ok sql => rw [query.compile_of_run run]
    | error cause => rw [query.compile_of_failure run]

theorem exists_run_of_compile {rendering : Rendering String} {sql : String}
    (rendered : (query.compile rendering).1 = .ok sql) :
    ∃ after, rendering.run query.freshBindings = (.ok sql, after) := by
  rw [compile_fst] at rendered
  exact ⟨_, Prod.ext rendered rfl⟩

/-- A rendering is compiled alike, whatever the orders and the window of the query are. -/
theorem compile_withOrders (rendering : Rendering String) (orders : List Order) (window : Window) :
    (Query.compile { query with orders, window } rendering).1 = (query.compile rendering).1 ∧
      (Query.compile { query with orders, window } rendering).2.parameters =
        (query.compile rendering).2.parameters := by
  cases result : rendering.run query.freshBindings with
  | mk outcome after =>
    cases outcome with
    | ok sql =>
      rw [query.compile_of_run result, compile_of_run { query with orders, window } result]
      exact ⟨rfl, rfl⟩
    | error cause =>
      rw [query.compile_of_failure result, compile_of_failure { query with orders, window } result]
      exact ⟨rfl, rfl⟩

/-- A text made of a rendered text is rendered with the same bindings. -/
theorem compile_bind_pure (rendering : Rendering String) (change : String → String) :
    query.compile (rendering >>= fun sql => pure (change sql)) =
      ((query.compile rendering).1.map change, (query.compile rendering).2) := by
  cases result : rendering.run query.freshBindings with
  | mk outcome after =>
    cases outcome with
    | ok sql =>
      have ended : (rendering >>= fun sql => pure (change sql)).run query.freshBindings =
          (.ok (change sql), after) := by
        rw [Rendering.run_bind_ok result]
        rfl
      rw [query.compile_of_run result, query.compile_of_run ended]
      rfl
    | error cause =>
      have stopped : (rendering >>= fun sql => pure (change sql)).run query.freshBindings =
          (.error cause, after) := Rendering.run_bind_error result
      rw [query.compile_of_failure result, query.compile_of_failure stopped]
      rfl

/-- Counting wraps the select and binds what it binds. -/
theorem render_count : query.render .count =
    ((query.render .select).1.map fun select => "SELECT COUNT(*) FROM (" ++ select ++ ") t",
      (query.render .select).2) :=
  query.compile_bind_pure query.selectStatement _

/-- A full statement is rendered as the select and, from its bindings, the order. -/
theorem exists_of_render_full {sql : String} (rendered : (query.render .full).1 = .ok sql) :
    ∃ select order core whole,
      query.selectStatement.run query.freshBindings = (.ok select, core) ∧
      query.orderClause.run core = (.ok order, whole) ∧
      (query.render .full).2.parameters = whole.values ∧ ∃ suffix, sql = select ++ suffix := by
  obtain ⟨whole, ran⟩ := query.exists_run_of_compile rendered
  have parameters : (query.render .full).2.parameters = whole.values := by
    rw [render, toSql, query.compile_of_run ran]
  obtain ⟨select, core, first, rest⟩ := Rendering.exists_of_run_bind ran
  obtain ⟨order, between, second, ended⟩ := Rendering.exists_of_run_bind rest
  cases ended
  refine ⟨select, order, core, _, first, second, parameters, ?_⟩
  split
  · exact query.dialect.exists_page_eq select order _ _
  · exact Dialect.exists_withOrder_eq select order

/-- The count wraps the select and leaves the same parameters, whatever the orders and the window are.
A full statement starts with the select; its parameters are those of the select and, numbered after
them, the values of the order terms. -/
theorem statements_share_core :
    (query.render .count).1 = (query.render .select).1.map
        (fun select => "SELECT COUNT(*) FROM (" ++ select ++ ") t") ∧
      (query.render .count).2 = (query.render .select).2 ∧
      (∀ orders window, ∀ kind ≠ StatementKind.full,
        (Query.render { query with orders, window } kind).1 = (query.render kind).1 ∧
        (Query.render { query with orders, window } kind).2.parameters =
          (query.render kind).2.parameters) ∧
      ∀ sql, (query.render .full).1 = .ok sql →
        let core := (query.render .select).2.parameters
        let whole := (query.render .full).2.parameters
        (∃ select suffix, (query.render .select).1 = .ok select ∧ sql = select ++ suffix) ∧
        (∀ name, core.contains name ↔ ∃ index < core.size, name = Bindings.automaticName index) ∧
        (∀ name, core.contains name → whole.find? name = core.find? name) ∧
        ∀ name value, ¬ core.contains name → (whole.find? name = some value ↔
          ∃ index, name = Bindings.automaticName (core.size + index) ∧
            query.orderValues[index]? = some value) := by
  refine ⟨by rw [render_count], by rw [render_count], ?_, ?_⟩
  · intro orders window kind other
    cases kind with
    | full => contradiction
    | count => exact query.compile_withOrders query.countStatement orders window
    | select => exact query.compile_withOrders query.selectStatement orders window
  · intro sql rendered core whole
    obtain ⟨select, order, first, second, ran, ordered, parameters, starts⟩ :=
      query.exists_of_render_full rendered
    have selected : query.render .select = (.ok select, { query with parameters := first.values }) :=
      query.compile_of_run ran
    have fresh : query.freshBindings.Automatic [] := .fresh query.dialect.marker
    rw [selectStatement_eq] at ran
    have held := Draft.Complete.automatic_of_run fresh ran
    have later := query.automatic_of_run_orderClause held ordered
    have core_eq : core = first.values := congrArg (·.2.parameters) selected
    rw [show whole = _ from parameters, core_eq]
    refine ⟨?_, ?_, ?_, ?_⟩
    · obtain ⟨suffix, eq⟩ := starts
      exact ⟨select, suffix, by rw [selected], eq⟩
    · rw [held.size_eq]
      exact held.contains_iff
    · exact fun name bound => held.find_of_contains later bound
    · exact fun name value absent => held.find_iff_of_not_contains later absent value

end Query

end SqlQuery
