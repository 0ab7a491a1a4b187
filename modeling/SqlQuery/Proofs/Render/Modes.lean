import SqlQuery.Proofs.Bindings.Automatic
import SqlQuery.Proofs.Render.Agreement

/-! # Two modes of one template

A parameterized rendering from fresh bindings fills the holes of the draft with the placeholders
`p_0`, `p_1`, … and cannot fail at a value. A literal rendering fills the same holes with the
literals of the same values, leaves the bindings alone and fails at the first value without literal.
-/

namespace SqlQuery

/-! ## Running a rendering -/

namespace Rendering

variable {α β : Type} {first : Rendering α} {next : α → Rendering β} {before after : Bindings}

theorem run_bind_ok {result : α} (run : first.run before = (.ok result, after)) :
    (first >>= next).run before = (next result).run after := by
  have step : StateT.run first.run before = (.ok result, after) := run
  change StateT.run (first >>= next).run before = _
  rw [ExceptT.run_bind, StateT.run_bind, step]
  rfl

end Rendering

namespace Renderer

variable {renderer : Renderer}

theorem run_value_parameterized (mode : renderer.parameterized = true) (value : Value)
    (bindings : Bindings) :
    (renderer.value value).run bindings =
      (.ok (bindings.bind value).1, (bindings.bind value).2) := by
  rw [Renderer.value, if_pos mode]
  rfl

/-- The literal of a value, or nothing if it has none. -/
def literalText (renderer : Renderer) (value : Value) : String :=
  match renderer.literal value with
  | .ok text => text
  | .error _ => ""

theorem literal_eq_ok_iff (renderer : Renderer) (value : Value) :
    (∃ text, renderer.literal value = .ok text) ↔
      renderer.literal value = .ok (renderer.literalText value) := by
  rw [literalText]
  cases renderer.literal value <;> simp

/-- Only a number that is not finite has no literal. -/
theorem literal_of_finite (renderer : Renderer) {value : Value}
    (finite : ∀ number, value = .float number → number.isFinite) :
    ∃ text, renderer.literal value = .ok text := by
  cases value with
  | float number => exact ⟨_, by rw [literal, if_pos (finite number rfl)]⟩
  | null => exact ⟨_, rfl⟩
  | bool value => exact ⟨_, rfl⟩
  | int value => exact ⟨_, rfl⟩
  | text value => exact ⟨_, rfl⟩

/-- Values all have literals if and only if each of them has one. -/
theorem mapM_literal_eq_ok_iff (renderer : Renderer) (values : List Value) :
    (∃ texts, values.mapM renderer.literal = .ok texts) ↔
      ∀ value ∈ values, renderer.literal value = .ok (renderer.literalText value) := by
  induction values with
  | nil => simp [pure, Except.pure]
  | cons value rest ih =>
    rw [List.forall_mem_cons, ← literal_eq_ok_iff, ← ih, List.mapM_cons]
    cases renderer.literal value <;> cases rest.mapM renderer.literal <;>
      simp [Bind.bind, Except.bind, pure, Except.pure]

end Renderer

/-! ## Templates -/

namespace Template

variable (renderer : Renderer)

/-- Placeholders in the holes; the invariant is that the bindings hold the values met so far. -/
theorem run_parameterized (mode : renderer.parameterized = true) (template : Template)
    {bindings : Bindings} {values : List Value} (automatic : bindings.Automatic values) :
    ∃ after : Bindings,
      (template.render renderer).run bindings =
        (.ok (template.fillFrom renderer.dialect
          (fun index _ => bindings.marker ++ Bindings.automaticName index) values.length), after) ∧
      after.Automatic (values ++ template.values) := by
  induction template generalizing bindings values with
  | nil => exact ⟨bindings, rfl, by simpa [Template.values] using automatic⟩
  | cons piece rest ih =>
    -- A value takes the next number, and the rest goes on from there.
    have bound (value : Value) := ih (automatic.bind_snd value)
    simp only [List.length_append, List.length_singleton, List.append_assoc,
      List.singleton_append] at bound
    cases piece with
    | hole value =>
      obtain ⟨after, run, held⟩ := bound value
      refine ⟨after, ?_, held⟩
      rw [Template.render, Piece.render,
        Rendering.run_bind_ok (Renderer.run_value_parameterized mode value bindings),
        Rendering.run_bind_ok run, automatic.bind_fst]
      rfl
    | dropped value =>
      obtain ⟨after, run, held⟩ := bound value
      refine ⟨after, ?_, held⟩
      rw [Template.render, Piece.render, bind_assoc,
        Rendering.run_bind_ok (Renderer.run_value_parameterized mode value bindings), pure_bind,
        Rendering.run_bind_ok run]
      simp only [String.empty_append]
      rfl
    | sql text =>
      obtain ⟨after, run, held⟩ := ih automatic
      refine ⟨after, ?_, held⟩
      rw [Template.render, Piece.render, pure_bind, Rendering.run_bind_ok run]
      rfl
    | name identifier =>
      obtain ⟨after, run, held⟩ := ih automatic
      refine ⟨after, ?_, held⟩
      rw [Template.render, Piece.render, pure_bind, Rendering.run_bind_ok run]
      rfl
    | quoted text =>
      obtain ⟨after, run, held⟩ := ih automatic
      refine ⟨after, ?_, held⟩
      rw [Template.render, Piece.render, pure_bind, Rendering.run_bind_ok run]
      rfl

/-- Literals in the holes, unless a value has none; bindings play no part. -/
theorem render_literal (mode : renderer.parameterized = false) (template : Template)
    (index : Nat) :
    template.render renderer = MonadExcept.ofExcept (do
      let _ ← template.values.mapM renderer.literal
      return template.fillFrom renderer.dialect (fun _ value => renderer.literalText value)
        index) := by
  induction template generalizing index with
  | nil => rfl
  | cons piece rest ih =>
    have value_eq (value : Value) :
        renderer.value value = MonadExcept.ofExcept (renderer.literal value) := by
      simp [Renderer.value, mode]
    cases piece with
    | hole value =>
      rw [Template.render, Piece.render, ih (index + 1), value_eq, values_hole, fillFrom,
        List.mapM_cons, Renderer.literalText]
      cases renderer.literal value <;>
        cases (values rest).mapM renderer.literal <;> rfl
    | dropped value =>
      rw [Template.render, Piece.render, ih (index + 1), value_eq, values_dropped, fillFrom,
        List.mapM_cons]
      cases renderer.literal value <;>
        cases (values rest).mapM renderer.literal <;> rfl
    | sql text =>
      rw [Template.render, Piece.render, ih index, values_sql, fillFrom]
      cases (values rest).mapM renderer.literal <;> rfl
    | name identifier =>
      rw [Template.render, Piece.render, ih index, values_name, fillFrom]
      cases (values rest).mapM renderer.literal <;> rfl
    | quoted text =>
      rw [Template.render, Piece.render, ih index, values_quoted, fillFrom]
      cases (values rest).mapM renderer.literal <;> rfl

end Template

/-! ## Statements -/

namespace Query

variable (query : Query)

/-- A parameterized statement is the template with placeholders, unless the draft has failed. -/
theorem render_parameterized (mode : query.parameterized = true) (kind : StatementKind) :
    ∃ after : Bindings, after.Automatic (query.draft kind).pieces.values ∧
      query.render kind = (match (query.draft kind).failure with
        | some cause => (.error cause, query)
        | none =>
          (.ok ((query.draft kind).pieces.fill query.dialect
            fun index _ => query.dialect.marker ++ Bindings.automaticName index),
          { query with parameters := after.values })) := by
  obtain ⟨after, run, held⟩ := Template.run_parameterized query.renderer mode
    (query.draft kind).pieces (Bindings.Automatic.fresh query.dialect.marker)
  refine ⟨after, held, ?_⟩
  rw [render_eq, compile, Draft.render, Rendering.run_bind_ok run]
  cases (query.draft kind).failure <;> rfl

theorem render_of_complete (mode : query.parameterized = true) {kind : StatementKind}
    (complete : (query.draft kind).failure = none) :
    (query.render kind).1 = .ok ((query.draft kind).pieces.fill query.dialect
      fun index _ => query.dialect.marker ++ Bindings.automaticName index) := by
  obtain ⟨after, -, eq⟩ := query.render_parameterized mode kind
  rw [eq, complete]

/-- A literal statement is the template with literals, unless a value has none or the draft has
failed. -/
theorem render_literal (mode : query.parameterized = false) (kind : StatementKind) :
    (query.render kind).1 = (do
      let _ ← (query.draft kind).pieces.values.mapM query.renderer.literal
      match (query.draft kind).failure with
      | some cause => throw cause
      | none => return ((query.draft kind).pieces.fill query.dialect
          fun _ value => query.renderer.literalText value)) := by
  rw [render_eq, compile, Draft.render, Template.render_literal query.renderer mode _ 0]
  cases (query.draft kind).pieces.values.mapM query.renderer.literal <;>
    cases (query.draft kind).failure <;> rfl

theorem render_of_literals (mode : query.parameterized = false) {kind : StatementKind}
    (complete : (query.draft kind).failure = none)
    (literals : ∀ value ∈ (query.draft kind).pieces.values,
      query.renderer.literal value = .ok (query.renderer.literalText value)) :
    (query.render kind).1 = .ok ((query.draft kind).pieces.fill query.dialect
      fun _ value => query.renderer.literalText value) := by
  obtain ⟨texts, all⟩ := (query.renderer.mapM_literal_eq_ok_iff _).mpr literals
  rw [query.render_literal mode kind, all, complete]
  rfl

@[simp] theorem draft_setParameterized (parameterized : Bool) (kind : StatementKind) :
    (query.setParameterized parameterized).draft kind = query.draft kind := by
  cases kind <;> rfl

/-- The text of a parameterized statement and what its parameters hold. -/
theorem of_render_parameterized (mode : query.parameterized = true) {kind : StatementKind}
    {sql : String} (rendered : (query.render kind).1 = .ok sql) :
    (query.draft kind).failure = none ∧
      sql = (query.draft kind).pieces.fill query.dialect
        (fun index _ => query.dialect.marker ++ Bindings.automaticName index) ∧
      ∃ after : Bindings, after.values = (query.render kind).2.parameters ∧
        after.Automatic (query.draft kind).pieces.values := by
  obtain ⟨after, held, eq⟩ := query.render_parameterized mode kind
  rw [eq] at rendered
  cases failure : (query.draft kind).failure with
  | some cause => simp [failure] at rendered
  | none =>
    simp only [failure, Except.ok.injEq] at rendered
    refine ⟨rfl, rendered.symm, after, ?_, held⟩
    rw [eq]
    simp only [failure]

/-- The text of a literal statement. -/
theorem of_render_literal (mode : query.parameterized = false) {kind : StatementKind}
    {sql : String} (rendered : (query.render kind).1 = .ok sql) :
    (query.draft kind).failure = none ∧
      (∀ value ∈ (query.draft kind).pieces.values,
        query.renderer.literal value = .ok (query.renderer.literalText value)) ∧
      sql = (query.draft kind).pieces.fill query.dialect
        (fun _ value => query.renderer.literalText value) := by
  rw [query.render_literal mode kind] at rendered
  rw [← query.renderer.mapM_literal_eq_ok_iff]
  cases literals : (query.draft kind).pieces.values.mapM query.renderer.literal with
  | error cause => simp [literals, bind, Except.bind] at rendered
  | ok texts =>
    cases failure : (query.draft kind).failure with
    | some cause =>
      simp [literals, failure, bind, Except.bind, throw, throwThe, MonadExceptOf.throw] at rendered
    | none =>
      simp only [literals, failure] at rendered
      exact ⟨rfl, ⟨texts, rfl⟩, (Except.ok.inj rendered).symm⟩

/-- Both modes fill the holes of one template, that of the draft. The placeholder of a hole has the
number of values bound before it, and the parameters are the values of the template by their
numbers. -/
theorem modes_share_template (kind : StatementKind) :
    let template := (query.draft kind).pieces
    (∀ sql, ((query.setParameterized true).render kind).1 = .ok sql →
      sql = template.fill query.dialect
        (fun index _ => query.dialect.marker ++ Bindings.automaticName index) ∧
      (∀ hole ∈ template.holes,
        ((query.setParameterized true).render kind).2.parameters.find?
          (Bindings.automaticName hole.1) = some hole.2) ∧
      ∀ name value,
        ((query.setParameterized true).render kind).2.parameters.find? name = some value ↔
          ∃ index, name = Bindings.automaticName index ∧ template.values[index]? = some value) ∧
    (∀ sql, ((query.setParameterized false).render kind).1 = .ok sql →
      ∃ write : Value → String,
        (∀ value ∈ template.values, query.renderer.literal value = .ok (write value)) ∧
        sql = template.fill query.dialect fun _ value => write value) ∧
    (∀ sql, ((query.setParameterized false).render kind).1 = .ok sql →
      ∃ text, ((query.setParameterized true).render kind).1 = .ok text) ∧
    (∀ sql, ((query.setParameterized true).render kind).1 = .ok sql →
      (∀ number, .float number ∈ template.values → number.isFinite) →
      ∃ text, ((query.setParameterized false).render kind).1 = .ok text) := by
  intro template
  refine ⟨?_, ?_, ?_, ?_⟩
  · intro sql rendered
    obtain ⟨-, text, after, parameters, held⟩ :=
      of_render_parameterized (query.setParameterized true) rfl rendered
    rw [draft_setParameterized] at text held
    rw [← parameters]
    refine ⟨text, ?_, held.find_iff⟩
    intro hole member
    rw [held.find_automaticName]
    exact (Template.getElem?_of_mem_holesFrom member).2
  · intro sql rendered
    obtain ⟨-, literals, text⟩ := of_render_literal (query.setParameterized false) rfl rendered
    rw [draft_setParameterized] at literals text
    exact ⟨_, literals, text⟩
  · intro sql rendered
    obtain ⟨failure, -, -⟩ := of_render_literal (query.setParameterized false) rfl rendered
    rw [draft_setParameterized] at failure
    exact ⟨_, (query.setParameterized true).render_of_complete rfl failure⟩
  · intro sql rendered finite
    obtain ⟨failure, -, -⟩ := of_render_parameterized (query.setParameterized true) rfl rendered
    rw [draft_setParameterized] at failure
    refine ⟨_, (query.setParameterized false).render_of_literals rfl failure ?_⟩
    intro value member
    apply ((query.setParameterized false).renderer.literal_eq_ok_iff value).mp
    apply Renderer.literal_of_finite
    rintro number rfl
    exact finite number member

end Query

end SqlQuery
