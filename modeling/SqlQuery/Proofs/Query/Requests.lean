import SqlQuery.Proofs.Query.Runs
import SqlQuery.Proofs.Render.Actions

/-! # The requests of a run

A step that lists or counts sends one request if its statement can be rendered, and no other step
sends any. Text and bindings travel apart, but a request has both from one rendering: the value of
each place of the text is bound to the placeholder that stands there.
-/

namespace SqlQuery

open Bindings (automaticName)

namespace Query

variable (query : Query)

/-- The request of a statement with what it binds, if the statement can be rendered. -/
def request? (kind : StatementKind) (target : Option Target) : Option Request :=
  match query.render kind with
  | (.ok sql, after) => some ⟨target, sql, after.parameters⟩
  | (.error _, _) => none

/-- A request with a statement of a query and what the same rendering binds. -/
structure Carries (kind : StatementKind) (request : Request) : Prop where
  rendered : query.render kind = (.ok request.sql, query.withParameters request.parameters)
  /-- Every placeholder in the text has its name among the parameters, with the value of its place. -/
  placeholders : query.parameterized = true →
    let template := (query.draft kind).pieces
    request.sql = template.fill query.dialect
      (fun index _ => query.dialect.marker ++ automaticName index) ∧
    ∀ hole ∈ template.holes, request.parameters.find? (automaticName hole.1) = some hole.2
  /-- The text has the literals of the values, and nothing is bound. -/
  literals : query.parameterized = false →
    request.sql = (query.draft kind).pieces.fill query.dialect
      (fun _ value => query.renderer.literalText value) ∧
    request.parameters = ∅

variable {query} {kind : StatementKind} {sql : String}

theorem parameters_of_render_literal (mode : query.parameterized = false)
    (rendered : (query.render kind).1 = .ok sql) : (query.render kind).2.parameters = ∅ := by
  obtain ⟨after, values, held⟩ := parameters_of_render rendered
  have unbound : query.renderer.bound (query.draft kind).pieces.values = [] := by
    rw [Renderer.bound, renderer, mode]
    rfl
  rw [unbound] at held
  rw [← values]
  exact held.values_eq (.fresh after.marker)

theorem carries_of_rendered (target : Option Target) (rendered : (query.render kind).1 = .ok sql) :
    query.Carries kind ⟨target, sql, (query.render kind).2.parameters⟩ where
  rendered := (render_of_ok rendered).1
  placeholders mode := by
    obtain ⟨-, text, after, values, held⟩ := query.of_render_parameterized mode rendered
    refine ⟨text, ?_⟩
    intro hole member
    change (query.render kind).2.parameters.find? (automaticName hole.1) = some hole.2
    rw [← values, held.find_automaticName]
    exact (Template.getElem?_of_mem_holesFrom member).2
  literals mode :=
    ⟨(query.of_render_literal mode rendered).2.2, parameters_of_render_literal mode rendered⟩

theorem render_of_unmapped (unmapped : query.table = none) (kind : StatementKind) :
    (query.render kind).1 = .error (.unmappedEntity query.target.entity) := by
  obtain ⟨values, failure⟩ := query.draft_of_unmapped unmapped kind
  rw [render_eq_error_iff, failure?, values, failure]
  split <;> rfl

theorem request?_of_rendered (target : Option Target) (rendered : (query.render kind).1 = .ok sql) :
    query.request? kind target = some ⟨target, sql, (query.render kind).2.parameters⟩ := by
  rw [request?, (render_of_ok rendered).1]

theorem request?_of_failure (target : Option Target) {cause : RenderError}
    (failed : (query.render kind).1 = .error cause) : query.request? kind target = none := by
  rw [request?, (render_of_failure failed).1]

end Query

/-- What a step is to send for the query that it finds. -/
def Step.request? (query : Query) : Step → Option Request
  | list window => (query.setWindow window).request? .full (some query.target)
  | listAll => query.request? .full (some query.target)
  | single => (query.setWindow ⟨some 1, 0⟩).request? .full (some query.target)
  | count => query.request? .count none
  | add _ | addOrder _ | setProjection _ | setParameterized _ | setWindow _ => none
  | sql | countSql | selectSql => none

namespace ActiveQuery

variable (active : ActiveQuery)

theorem afterRendering_sent (kind : StatementKind) (recipient : Option Target) :
    (active.afterRendering kind recipient true).sent =
      active.sent ++ (active.query.request? kind recipient).toList := by
  cases rendered : (active.query.render kind).1 with
  | error cause =>
    rw [afterRendering_sent_of_failure recipient true rendered,
      Query.request?_of_failure recipient rendered]
    exact (List.append_nil _).symm
  | ok sql =>
    rw [afterRendering_sent_of_rendered recipient true (Query.render_of_ok rendered).1,
      Query.request?_of_rendered recipient rendered]
    rfl

/-- Whatever the connection answers, a step sends its request. -/
theorem step_sent (shape : Option Shape) (step : Step) :
    (active.step shape step).2.sent = active.sent ++ (step.request? active.query).toList := by
  have unsent {kind : StatementKind} (renders : step.statement? = some kind)
      (quiet : step.isExecution = false) : (active.step shape step).2.sent = active.sent := by
    rw [active.step_eq_renderStep shape renders quiet]
    rfl
  have executed {kind : StatementKind} (renders : step.statement? = some kind)
      (executes : step.isExecution = true) : (active.step shape step).2.sent = active.sent ++
        ((step.prepare active.query).request? kind (step.recipient active.query.target)).toList := by
    rw [active.step_snd shape renders, executes]
    exact (active.update step.prepare).afterRendering_sent kind _
  cases step with
  | add | addOrder | setProjection | setParameterized | setWindow => exact (List.append_nil _).symm
  | sql | countSql | selectSql => exact (unsent rfl rfl).trans (List.append_nil _).symm
  | list | listAll | single | count => exact executed rfl rfl

/-- The steps of a run, each with the query that it finds. -/
def visits : ActiveQuery → List (Option Shape × Step) → List (Query × Step)
  | _, [] => []
  | active, (shape, step) :: rest =>
    (active.query, step) :: visits (active.step shape step).2 rest

theorem run_sent (tape : List (Option Shape × Step)) :
    (active.run tape).sent =
      active.sent ++ (active.visits tape).filterMap fun (query, step) => step.request? query := by
  induction tape generalizing active with
  | nil => exact (List.append_nil _).symm
  | cons taken rest ih =>
    obtain ⟨shape, step⟩ := taken
    rw [run, visits, ih, step_sent, List.append_assoc]
    cases requested : step.request? active.query <;> simp [requested]

/-- On any connection a run sends, in order, the requests of its steps. A statement that cannot be
rendered, such as any statement of an unmapped entity, has no request; any other one has the request
that carries its text and its bindings. -/
theorem sends_what_is_rendered (tape : List (Option Shape × Step)) :
    (active.run tape).sent =
        active.sent ++ (active.visits tape).filterMap (fun (query, step) => step.request? query) ∧
      ∀ (query : Query) (kind : StatementKind) (target : Option Target),
        (query.table = none → query.request? kind target = none) ∧
        (∀ cause, (query.render kind).1 = .error cause → query.request? kind target = none) ∧
        ∀ sql, (query.render kind).1 = .ok sql → ∃ request,
          query.request? kind target = some request ∧ request.target = target ∧
            request.sql = sql ∧ query.Carries kind request := by
  refine ⟨active.run_sent tape, ?_⟩
  intro query kind target
  refine ⟨?_, ?_, ?_⟩
  · intro unmapped
    exact Query.request?_of_failure target (Query.render_of_unmapped unmapped kind)
  · intro cause failed
    exact Query.request?_of_failure target failed
  · intro sql rendered
    exact ⟨_, Query.request?_of_rendered target rendered, rfl, rfl,
      Query.carries_of_rendered target rendered⟩

end ActiveQuery

end SqlQuery
