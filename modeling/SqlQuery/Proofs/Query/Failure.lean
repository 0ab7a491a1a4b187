import SqlQuery.Proofs.Data.Dictionary
import SqlQuery.Proofs.Query.Core

/-! # Why a statement cannot be rendered, and what it binds

A statement fails at the first value without literal, if values are inlined, and otherwise for the
failure of its draft. The failure can therefore be told from the draft alone. A failed rendering
leaves the query as it was; a successful one leaves its bindings, which are the values of the draft
by their numbers.
-/

namespace SqlQuery

/-- A result whose failures are told apart is there if and only if there is no failure. -/
theorem exists_eq_ok_iff_of_error_iff {ε α : Type} {result : Except ε α} {failure? : Option ε}
    (failed : ∀ cause, result = .error cause ↔ failure? = some cause) :
    (∃ value, result = .ok value) ↔ failure? = none := by
  cases result with
  | ok value =>
    simp only [reduceCtorEq, false_iff] at failed
    simp [Option.eq_none_iff_forall_not_mem.mpr failed]
  | error cause => simp [(failed cause).mp rfl]

/-- Why a value has no literal. -/
def Value.literalFailure? : Value → Option RenderError
  | .float number => if number.isFinite then none else some (.invalidLiteral number.toText)
  | _ => none

namespace Renderer

variable (renderer : Renderer)

theorem literal_eq_error_iff (value : Value) (cause : RenderError) :
    renderer.literal value = .error cause ↔ value.literalFailure? = some cause := by
  cases value with
  | float number =>
    rw [literal, Value.literalFailure?]
    split <;> simp
  | null | bool | int | text => simp [literal, Value.literalFailure?]

/-- Values are inlined up to the first one without literal. -/
theorem mapM_literal_eq_error_iff (values : List Value) (cause : RenderError) :
    values.mapM renderer.literal = .error cause ↔
      values.findSome? Value.literalFailure? = some cause := by
  induction values with
  | nil => simp [pure, Except.pure]
  | cons value rest ih =>
    rw [List.mapM_cons, List.findSome?_cons]
    cases inlined : renderer.literal value with
    | error first =>
      rw [(renderer.literal_eq_error_iff value first).mp inlined]
      simp [Bind.bind, Except.bind]
    | ok text =>
      have inlinable : value.literalFailure? = none :=
        (exists_eq_ok_iff_of_error_iff (renderer.literal_eq_error_iff value)).mp ⟨text, inlined⟩
      rw [inlinable, ← ih]
      cases rest.mapM renderer.literal <;> simp [Bind.bind, Except.bind, pure, Except.pure]

end Renderer

namespace Query

variable (query : Query)

/-- Why a statement of a query cannot be rendered. -/
def failure? (kind : StatementKind) : Option RenderError :=
  let draft := query.draft kind
  if query.parameterized then draft.failure
  else (draft.pieces.values.findSome? Value.literalFailure?).or draft.failure

theorem render_eq_error_iff (kind : StatementKind) (cause : RenderError) :
    (query.render kind).1 = .error cause ↔ query.failure? kind = some cause := by
  rw [failure?]
  cases mode : query.parameterized with
  | true =>
    obtain ⟨after, -, eq⟩ := query.render_parameterized mode kind
    rw [eq]
    cases (query.draft kind).failure <;> simp
  | false =>
    have inlined := query.renderer.mapM_literal_eq_error_iff (query.draft kind).pieces.values
    rw [query.render_literal mode kind]
    cases literals : (query.draft kind).pieces.values.mapM query.renderer.literal with
    | error first =>
      simp [(inlined first).mp literals, bind, Except.bind]
    | ok texts =>
      have all : (query.draft kind).pieces.values.findSome? Value.literalFailure? = none :=
        (exists_eq_ok_iff_of_error_iff inlined).mp ⟨texts, literals⟩
      rw [all]
      cases (query.draft kind).failure <;>
        simp [bind, Except.bind, pure, Except.pure, throw, throwThe, MonadExceptOf.throw]

theorem exists_render_eq_ok_iff (kind : StatementKind) :
    (∃ sql, (query.render kind).1 = .ok sql) ↔ query.failure? kind = none :=
  exists_eq_ok_iff_of_error_iff (query.render_eq_error_iff kind)

/-! ## What a rendering leaves -/

/-- The bindings that are left where the rendering of a statement ends, if it does not fail. -/
def bindings? (kind : StatementKind) : Option Parameters :=
  match (query.rendering kind).run query.freshBindings with
  | (.ok _, after) => some after.values
  | (.error _, _) => none

def withParameters (query : Query) (parameters : Parameters) : Query :=
  { query with parameters }

/-- A rendering that succeeds puts its bindings in place of the parameters and changes nothing else;
one that fails changes nothing. -/
theorem render_cases (kind : StatementKind) :
    (∃ sql parameters, query.bindings? kind = some parameters ∧
      query.render kind = (.ok sql, query.withParameters parameters)) ∨
    ∃ cause, query.bindings? kind = none ∧ query.render kind = (.error cause, query) := by
  rw [render_eq_compile, bindings?]
  cases run : (query.rendering kind).run query.freshBindings with
  | mk outcome after =>
    cases outcome with
    | ok sql => exact .inl ⟨sql, after.values, rfl, query.compile_of_run run⟩
    | error cause => exact .inr ⟨cause, rfl, query.compile_of_failure run⟩

theorem render_snd (kind : StatementKind) : (query.render kind).2 =
    query.withParameters ((query.bindings? kind).getD query.parameters) := by
  obtain ⟨sql, parameters, bound, ended⟩ | ⟨cause, unbound, stopped⟩ := query.render_cases kind
  · rw [ended, bound, Option.getD_some]
  · rw [stopped, unbound]
    rfl

variable {query}

theorem render_of_failure {kind : StatementKind} {cause : RenderError}
    (failed : (query.render kind).1 = .error cause) :
    query.render kind = (.error cause, query) ∧ query.bindings? kind = none := by
  obtain ⟨sql, parameters, -, rendered⟩ | ⟨first, unbound, stopped⟩ := query.render_cases kind
  · rw [rendered] at failed
    contradiction
  · rw [stopped] at failed
    cases failed
    exact ⟨stopped, unbound⟩

theorem render_of_ok {kind : StatementKind} {sql : String}
    (rendered : (query.render kind).1 = .ok sql) :
    query.render kind = (.ok sql, query.withParameters (query.render kind).2.parameters) ∧
      query.bindings? kind = some (query.render kind).2.parameters := by
  obtain ⟨text, parameters, bound, ended⟩ | ⟨cause, -, stopped⟩ := query.render_cases kind
  · rw [ended] at rendered ⊢
    cases rendered
    exact ⟨rfl, bound⟩
  · rw [stopped] at rendered
    contradiction

/-- The bindings of a rendering are the bound values of the draft. -/
theorem automatic_of_bindings? {kind : StatementKind} {parameters : Parameters}
    (bound : query.bindings? kind = some parameters) :
    ∃ after : Bindings, after.values = parameters ∧
      after.Automatic (query.renderer.bound (query.draft kind).pieces.values) := by
  have fresh : query.freshBindings.Automatic [] := .fresh query.dialect.marker
  rw [bindings?, rendering_eq] at bound
  cases run : ((query.draft kind).render query.renderer).run query.freshBindings with
  | mk outcome after =>
    rw [run] at bound
    cases outcome with
    | ok sql =>
      exact ⟨after, Option.some.inj bound, Draft.Complete.automatic_of_run fresh run⟩
    | error cause => contradiction

/-- A rendered statement leaves the bound values of its draft as the parameters. -/
theorem parameters_of_render {kind : StatementKind} {sql : String}
    (rendered : (query.render kind).1 = .ok sql) :
    ∃ after : Bindings, after.values = (query.render kind).2.parameters ∧
      after.Automatic (query.renderer.bound (query.draft kind).pieces.values) :=
  automatic_of_bindings? (render_of_ok rendered).2

end Query

/-- The values alone decide what bindings without names hold. -/
theorem Bindings.Automatic.values_eq {first second : Bindings} {values : List Value}
    (left : first.Automatic values) (right : second.Automatic values) :
    first.values = second.values := by
  refine Dictionary.ext_find? fun name => Option.ext fun value => ?_
  rw [left.find_iff, right.find_iff]

end SqlQuery
