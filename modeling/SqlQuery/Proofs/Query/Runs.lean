import SqlQuery.Proofs.Query.Failure
import SqlQuery.Query.Execution

/-! # Runs of queries

A query in use is taken through steps of any kind and number, on a connection that answers as it
likes. Whatever went before, a step renders what a query built anew for the same parts renders; the
parameters are the bindings of the latest rendering that succeeded; and only building changes the
parts.
-/

namespace SqlQuery

/-! ## Queries built anew -/

namespace Query

/-- A new query for the same target and dialect, with the same parts. -/
def rebuild (mapping : Mapping) (query : Query) : Query :=
  let start := Query.new query.target query.dialect mapping
  let conditioned := query.conditions.foldl add start
  let ordered := query.orders.foldl addOrder conditioned
  let projected := match query.projection with
    | some projection => ordered.setProjection projection
    | none => ordered
  (projected.setParameterized query.parameterized).setWindow query.window

/-- A query whose table, catalog and schema are those of a mapping. -/
structure Built (mapping : Mapping) (query : Query) : Prop where
  table : query.table = mapping.resolve? query.target
  catalog : query.catalog = mapping.catalog
  schema : query.schema = mapping.schema

theorem foldl_add (conditions : List Expression) (query : Query) :
    conditions.foldl add query = { query with conditions := query.conditions ++ conditions } := by
  induction conditions generalizing query with
  | nil => simp
  | cons first rest ih => rw [List.foldl_cons, ih]; simp [add]

theorem foldl_addOrder (orders : List Order) (query : Query) :
    orders.foldl addOrder query = { query with orders := query.orders ++ orders } := by
  induction orders generalizing query with
  | nil => simp
  | cons first rest ih => rw [List.foldl_cons, ih]; simp [addOrder]

/-- Building anew gives the same query without its parameters. -/
theorem Built.rebuild_eq {mapping : Mapping} {query : Query} (built : query.Built mapping) :
    query.rebuild mapping = query.withParameters ∅ := by
  rw [rebuild, foldl_add, foldl_addOrder, new, ← built.table, ← built.catalog, ← built.schema]
  obtain ⟨target, table, dialect, catalog, schema, conditions, projection, orders, parameterized,
    window, parameters⟩ := query
  cases projection <;> rfl

/-- A query built anew is rendered to the same text or fails for the same cause, and binds the same. -/
theorem Built.render_rebuild {mapping : Mapping} {query : Query} (built : query.Built mapping)
    (kind : StatementKind) :
    ((query.rebuild mapping).render kind).1 = (query.render kind).1 ∧
      (query.rebuild mapping).bindings? kind = query.bindings? kind := by
  have same : (query.withParameters ∅).rendering kind = query.rendering kind := by
    rw [rendering_eq, rendering_eq]
    cases kind <;> rfl
  rw [built.rebuild_eq, render_eq_compile, render_eq_compile, compile_fst, compile_fst, bindings?,
    bindings?, same]
  exact ⟨rfl, rfl⟩

end Query

/-! ## Steps -/

namespace Step

/-- The statement that a step renders, if it renders one. -/
def statement? : Step → Option StatementKind
  | sql | list _ | listAll | single => some .full
  | countSql | count => some .count
  | selectSql => some .select
  | add _ | addOrder _ | setProjection _ | setParameterized _ | setWindow _ => none

/-- Whether a step sends what it renders. -/
def isExecution : Step → Bool
  | list _ | listAll | single | count => true
  | _ => false

/-- What a step makes of a query before it renders. -/
def prepare : Step → Query → Query
  | add condition, query => query.add condition
  | addOrder order, query => query.addOrder order
  | setProjection projection, query => query.setProjection projection
  | setParameterized parameterized, query => query.setParameterized parameterized
  | setWindow window, query => query.setWindow window
  | list window, query => query.setWindow window
  | single, query => query.setWindow ActiveQuery.firstRow
  | sql, query | countSql, query | selectSql, query | listAll, query | count, query => query

/-- The window that a step which renders leaves. -/
def window : Step → Window → Window
  | list window, _ => window
  | single, _ => ⟨some 1, 0⟩
  | _, window => window

/-- On whose behalf a step sends: for the target of the query, or for none when it counts. -/
def recipient (target : Target) : Step → Option Target
  | count => none
  | _ => some target

theorem prepare_built {mapping : Mapping} {query : Query} (built : query.Built mapping)
    (step : Step) : (step.prepare query).Built mapping := by
  cases step <;> exact ⟨built.table, built.catalog, built.schema⟩

end Step

namespace ActiveQuery

/-- A query in use after rendering a statement, without sending it or with. -/
def afterRendering (active : ActiveQuery) (kind : StatementKind) (recipient : Option Target)
    (sends : Bool) : ActiveQuery :=
  match active.query.render kind with
  | (.error _, after) => { active with query := after }
  | (.ok sql, after) =>
    { active with
      query := after
      sent := active.sent ++ if sends then [⟨recipient, sql, after.parameters⟩] else [] }

variable (active : ActiveQuery)

theorem afterRendering_query (kind : StatementKind) (recipient : Option Target) (sends : Bool) :
    (active.afterRendering kind recipient sends).query = (active.query.render kind).2 := by
  rw [afterRendering]
  cases active.query.render kind with
  | mk outcome after => cases outcome <;> rfl

theorem afterRendering_sent_of_failure {active : ActiveQuery} {kind : StatementKind}
    (recipient : Option Target) (sends : Bool) {cause : RenderError}
    (failed : (active.query.render kind).1 = .error cause) :
    (active.afterRendering kind recipient sends).sent = active.sent := by
  rw [afterRendering]
  cases result : active.query.render kind with
  | mk outcome after =>
    rw [result] at failed
    cases failed
    rfl

theorem afterRendering_sent_of_rendered {active : ActiveQuery} {kind : StatementKind}
    (recipient : Option Target) (sends : Bool) {sql : String} {after : Query}
    (rendered : active.query.render kind = (.ok sql, after)) :
    (active.afterRendering kind recipient sends).sent =
      active.sent ++ if sends then [⟨recipient, sql, after.parameters⟩] else [] := by
  rw [afterRendering, rendered]

theorem renderStep_fst (kind : StatementKind) :
    (active.renderStep (·.render kind)).1 =
      ((active.query.render kind).1.map Outcome.text).mapError .render := rfl

theorem renderStep_snd (kind : StatementKind) (recipient : Option Target) :
    (active.renderStep (·.render kind)).2 = active.afterRendering kind recipient false := by
  rw [renderStep, render, afterRendering]
  cases active.query.render kind with
  | mk outcome after => cases outcome <;> simp

section Fetching

variable {α : Type} (kind : StatementKind) (recipient : Option Target)
  (read : List Row → Except QueryError α)

/-- Whatever the connection answers and however its rows are read, a statement that could be rendered
was sent with what it bound. -/
theorem fetch_snd :
    (active.fetch (·.render kind) recipient read).2 = active.afterRendering kind recipient true := by
  rw [fetch, render, afterRendering]
  cases active.query.render kind with
  | mk outcome after =>
    cases outcome with
    | error cause => rfl
    | ok sql =>
      dsimp only [send]
      split <;> rename_i same <;> rw [← (Prod.mk.inj same).2] <;> rfl

theorem fetch_fst {cause : RenderError} (failed : (active.query.render kind).1 = .error cause) :
    (active.fetch (·.render kind) recipient read).1 = .error (.render cause) := by
  rw [fetch, render]
  cases result : active.query.render kind with
  | mk outcome after =>
    rw [result] at failed
    cases failed
    rfl

end Fetching

/-- An execution fetches what its statement returns. -/
theorem exists_step_eq_fetch (shape : Option Shape) {step : Step} (executes : step.isExecution) :
    ∃ kind, step.statement? = some kind ∧
      ∃ (α : Type) (read : List Row → Except QueryError α) (outcome : α → Outcome),
        active.step shape step =
          Prod.map (Except.map outcome) id ((active.update step.prepare).fetch (·.render kind)
            (step.recipient active.query.target) read) := by
  cases step with
  | list window =>
    cases shape with
    | none => exact ⟨.full, rfl, _, .ok, .rows, rfl⟩
    | some shape => exact ⟨.full, rfl, _, readTyped shape, .typed, rfl⟩
  | listAll =>
    cases shape with
    | none => exact ⟨.full, rfl, _, .ok, .rows, rfl⟩
    | some shape => exact ⟨.full, rfl, _, readTyped shape, .typed, rfl⟩
  | single =>
    have first {α : Type} (rows : Except QueryError (List α)) (outcome : Option α → Outcome) :
        (rows.map List.head?).map outcome = rows.map fun rows => outcome rows.head? := by
      cases rows <;> rfl
    cases shape with
    | none => exact ⟨.full, rfl, _, .ok, _, congrArg (·, _) (first _ (.rows ·.toList))⟩
    | some shape =>
      exact ⟨.full, rfl, _, readTyped shape, _, congrArg (·, _) (first _ (.typed ·.toList))⟩
  | count => exact ⟨.count, rfl, _, readCount, .count, rfl⟩
  | add | addOrder | setProjection | setParameterized | setWindow | sql | countSql | selectSql =>
    contradiction

/-- A rendering is not sent. -/
theorem step_eq_renderStep (shape : Option Shape) {step : Step} {kind : StatementKind}
    (renders : step.statement? = some kind) (unsent : step.isExecution = false) :
    active.step shape step = (active.update step.prepare).renderStep (·.render kind) := by
  cases step with
  | sql | countSql | selectSql =>
    cases renders
    rfl
  | list | listAll | single | count | add | addOrder | setProjection | setParameterized | setWindow =>
    contradiction

theorem step_eq_update (shape : Option Shape) {step : Step} (builds : step.statement? = none) :
    active.step shape step = (.ok .done, active.update step.prepare) := by
  cases step with
  | add | addOrder | setProjection | setParameterized | setWindow => rfl
  | sql | countSql | selectSql | list | listAll | single | count => contradiction

/-- What a step leaves that renders a statement. -/
theorem step_snd (shape : Option Shape) {step : Step} {kind : StatementKind}
    (renders : step.statement? = some kind) :
    (active.step shape step).2 = (active.update step.prepare).afterRendering kind
      (step.recipient active.query.target) step.isExecution := by
  cases executes : step.isExecution with
  | true =>
    obtain ⟨kind', renders', α, read, outcome, eq⟩ := active.exists_step_eq_fetch shape executes
    cases renders.symm.trans renders'
    rw [eq]
    exact fetch_snd (active.update step.prepare) kind _ read
  | false =>
    rw [active.step_eq_renderStep shape renders executes]
    exact renderStep_snd ..

/-- A step whose statement cannot be rendered returns the cause. -/
theorem step_fst_of_failure (shape : Option Shape) {step : Step} {kind : StatementKind}
    (renders : step.statement? = some kind) {cause : RenderError}
    (failed : ((step.prepare active.query).render kind).1 = .error cause) :
    (active.step shape step).1 = .error (.render cause) := by
  cases executes : step.isExecution with
  | true =>
    obtain ⟨kind', renders', α, read, outcome, eq⟩ := active.exists_step_eq_fetch shape executes
    cases renders.symm.trans renders'
    have fetched := fetch_fst (active.update step.prepare) kind (step.recipient active.query.target)
      read failed
    rw [eq, Prod.map_fst, fetched]
    rfl
  | false =>
    rw [active.step_eq_renderStep shape renders executes, renderStep_fst]
    change (((step.prepare active.query).render kind).1.map Outcome.text).mapError _ = _
    rw [failed]
    rfl

/-! ## Runs -/

/-- A step prepares the query, and replaces its parameters if it renders a statement that can be
rendered. -/
theorem step_query (shape : Option Shape) (step : Step) :
    (active.step shape step).2.query = (step.prepare active.query).withParameters
      ((step.statement?.bind (step.prepare active.query).bindings?).getD
        active.query.parameters) := by
  have kept : (step.prepare active.query).parameters = active.query.parameters := by
    cases step <;> rfl
  cases renders : step.statement? with
  | none =>
    rw [active.step_eq_update shape renders, ← kept]
    rfl
  | some kind =>
    rw [active.step_snd shape renders, afterRendering_query, Option.bind_some, ← kept]
    exact (step.prepare active.query).render_snd kind

theorem built_step {mapping : Mapping} (built : active.query.Built mapping) (shape : Option Shape)
    (step : Step) : (active.step shape step).2.query.Built mapping := by
  have prepared := step.prepare_built built
  rw [active.step_query]
  exact ⟨prepared.table, prepared.catalog, prepared.schema⟩

/-- Takes steps one after another, each with the shape in which it reads rows. -/
def run : ActiveQuery → List (Option Shape × Step) → ActiveQuery
  | active, [] => active
  | active, (shape, step) :: rest => run (active.step shape step).2 rest

/-- The statements that a run renders, each with the query as it is then. -/
def renders : ActiveQuery → List (Option Shape × Step) → List (StatementKind × Query)
  | _, [] => []
  | active, (shape, step) :: rest =>
    (step.statement?.map fun kind => (kind, step.prepare active.query)).toList ++
      renders (active.step shape step).2 rest

theorem built_run {mapping : Mapping} (built : active.query.Built mapping)
    (steps : List (Option Shape × Step)) : (active.run steps).query.Built mapping := by
  induction steps generalizing active with
  | nil => exact built
  | cons first rest ih => exact ih _ (active.built_step built first.1 first.2)

/-- After a run the parameters are the bindings of its latest successful rendering, or those before
it. -/
theorem parameters_run (steps : List (Option Shape × Step)) :
    (active.run steps).query.parameters =
      ((active.renders steps).filterMap fun (kind, query) =>
        query.bindings? kind).getLast?.getD active.query.parameters := by
  induction steps generalizing active with
  | nil => rfl
  | cons first rest ih =>
    obtain ⟨shape, step⟩ := first
    rw [run, renders, ih, active.step_query, List.filterMap_append, List.getLast?_append]
    cases step.statement? with
    | none => simp [Query.withParameters]
    | some kind =>
      cases bound : (step.prepare active.query).bindings? kind <;>
        cases ((renders (active.step shape step).2 rest).filterMap fun (kind, query) =>
          query.bindings? kind).getLast? <;> simp [bound, Query.withParameters]

/-- What a step does, compared with a query built anew. -/
structure RendersAnew (mapping : Mapping) (shape : Option Shape) (step : Step) : Prop where
  /-- A step that renders nothing only builds. -/
  builds : step.statement? = none →
    active.step shape step = (.ok .done, active.update step.prepare)
  /-- A step that renders leaves the trees and the mode. -/
  leaves : step.statement?.isSome →
    let after := (active.step shape step).2.query
    after.conditions = active.query.conditions ∧ after.orders = active.query.orders ∧
      after.projection = active.query.projection ∧
      after.parameterized = active.query.parameterized
  /-- Of these, only listing changes the window. -/
  window : step.statement?.isSome →
    (active.step shape step).2.query.window = step.window active.query.window
  /-- If a query built anew cannot be rendered, the step returns the same cause, sends nothing and
  leaves the parameters. -/
  failed : ∀ kind, step.statement? = some kind → ∀ cause,
    (((step.prepare active.query).rebuild mapping).render kind).1 = .error cause →
    (active.step shape step).1 = .error (.render cause) ∧
      (active.step shape step).2.sent = active.sent ∧
      (active.step shape step).2.query.parameters = active.query.parameters
  /-- If it can, the step returns or sends the same text, with the same bindings, which are those that
  its rendering makes; whatever becomes of a statement that was sent, its bindings are left. -/
  rendered : ∀ kind, step.statement? = some kind → ∀ sql fresh,
    ((step.prepare active.query).rebuild mapping).render kind = (.ok sql, fresh) →
    (step.prepare active.query).bindings? kind = some fresh.parameters ∧
      (active.step shape step).2.query.parameters = fresh.parameters ∧
      (step.isExecution = false → (active.step shape step).1 = .ok (.text sql) ∧
        (active.step shape step).2.sent = active.sent) ∧
      (step.isExecution → (active.step shape step).2.sent =
        active.sent ++ [⟨step.recipient active.query.target, sql, fresh.parameters⟩])

theorem rendersAnew {mapping : Mapping} (built : active.query.Built mapping)
    (shape : Option Shape) (step : Step) : active.RendersAnew mapping shape step where
  builds := active.step_eq_update shape
  leaves renders := by
    rw [active.step_query]
    cases step with
    | add | addOrder | setProjection | setParameterized | setWindow => contradiction
    | _ => exact ⟨rfl, rfl, rfl, rfl⟩
  window renders := by
    rw [active.step_query]
    cases step with
    | add | addOrder | setProjection | setParameterized | setWindow => contradiction
    | _ => rfl
  failed kind renders cause failed := by
    rw [((step.prepare_built built).render_rebuild kind).1] at failed
    have unbound := (Query.render_of_failure failed).2
    refine ⟨active.step_fst_of_failure shape renders failed, ?_, ?_⟩
    · rw [active.step_snd shape renders]
      exact afterRendering_sent_of_failure _ _ failed
    · rw [active.step_query, renders, Option.bind_some, unbound]
      rfl
  rendered kind renders sql fresh rendered := by
    obtain ⟨outcome, bindings⟩ := (step.prepare_built built).render_rebuild kind
    rw [rendered] at outcome
    obtain ⟨ended, made⟩ := Query.render_of_ok outcome.symm
    have bound : (step.prepare active.query).bindings? kind = some fresh.parameters := by
      rw [← bindings, (Query.render_of_ok (congrArg Prod.fst rendered)).2, rendered]
    have anew : (active.update step.prepare).query.render kind =
        (.ok sql, (step.prepare active.query).withParameters fresh.parameters) := by
      rwa [← Option.some.inj (bound.symm.trans made)] at ended
    have sent := afterRendering_sent_of_rendered (step.recipient active.query.target)
      step.isExecution anew
    rw [← active.step_snd shape renders] at sent
    refine ⟨bound, ?_, ?_, ?_⟩
    · rw [active.step_query, renders, Option.bind_some, bound]
      rfl
    · intro unsent
      rw [unsent] at sent
      refine ⟨?_, sent.trans (List.append_nil _)⟩
      rw [active.step_eq_renderStep shape renders unsent, renderStep_fst, anew]
      rfl
    · intro executes
      rwa [executes] at sent

/-- Take a new query through any steps, on any connection: its parameters are the bindings of the
latest rendering that succeeded, bindings are the bound values of a draft by their numbers, and a
further step does what it does with a query built anew. -/
theorem run_renders_anew (target : Target) (dialect : Dialect) (mapping : Mapping)
    (connection : Connection) (steps : List (Option Shape × Step)) :
    let start : ActiveQuery := { query := .new target dialect mapping, connection }
    (start.run steps).query.parameters =
        ((start.renders steps).filterMap fun (kind, query) =>
          query.bindings? kind).getLast?.getD ∅ ∧
      (∀ (query : Query) (kind : StatementKind) (parameters : Parameters),
        query.bindings? kind = some parameters → ∀ name value,
          (parameters.find? name = some value ↔ ∃ index, name = Bindings.automaticName index ∧
            (query.renderer.bound (query.draft kind).pieces.values)[index]? = some value)) ∧
      ∀ shape step, (start.run steps).RendersAnew mapping shape step := by
  intro start
  have built : start.query.Built mapping := ⟨rfl, rfl, rfl⟩
  refine ⟨start.parameters_run steps, ?_, (start.run steps).rendersAnew (start.built_run built steps)⟩
  intro query kind parameters bound
  obtain ⟨after, rfl, held⟩ := Query.automatic_of_bindings? bound
  exact held.find_iff

end ActiveQuery

end SqlQuery
