import SqlQuery.Proofs.Bindings.Freshness
import SqlQuery.Proofs.Query.Failure
import SqlQuery.Proofs.Render.Actions

/-! # What a rendering leaves behind

A rendering does its actions in turn until one is refused: a look-up because the dialect lacks the
function, a value because it is inlined and has no literal. The first refusal is the failure of the
rendering. The values of the actions before it are bound, each under a new name, also if the
rendering fails; values that are inlined are not bound at all.
-/

namespace SqlQuery

/-! ## Refused actions -/

namespace Renderer

variable (renderer : Renderer)

/-- Why an action cannot be done. -/
def refusal? : Action → Option RenderError
  | .value bound => if renderer.parameterized then none else bound.literalFailure?
  | .lookup function =>
    if renderer.dialect.functions.contains function then none
    else some (.functionNotFound function renderer.dialect.name)

/-- The first refusal: a value that is inlined before the first missing function, else that
function. -/
theorem findSome?_refusal? (actions : List Action) :
    actions.findSome? renderer.refusal? =
      if renderer.parameterized then renderer.dialect.missing? actions
      else ((renderer.dialect.taken actions).findSome? Value.literalFailure?).or
        (renderer.dialect.missing? actions) := by
  induction actions with
  | nil => simp [Dialect.missing?, Dialect.taken]
  | cons action rest ih =>
    rw [List.findSome?_cons, ih]
    cases action with
    | value bound =>
      rw [refusal?, Dialect.missing?, Dialect.taken, List.findSome?_cons]
      cases renderer.parameterized <;> cases bound.literalFailure? <;> rfl
    | lookup function =>
      rw [refusal?, Dialect.missing?, Dialect.taken]
      cases renderer.parameterized <;> cases renderer.dialect.functions.contains function <;> rfl

theorem refusal?_isSome_iff (action : Action) :
    (∃ cause, renderer.refusal? action = some cause) ↔
      (∃ function, action = .lookup function ∧
        renderer.dialect.functions.contains function = false) ∨
      (renderer.parameterized = false ∧
        ∃ number : Binary64, action = .value (.float number) ∧ number.isFinite = false) := by
  cases action with
  | lookup function =>
    rw [refusal?]
    cases known : renderer.dialect.functions.contains function <;> simp [known]
  | value bound =>
    rw [refusal?]
    cases renderer.parameterized with
    | true => simp
    | false =>
      cases bound with
      | float number =>
        rw [Value.literalFailure?]
        cases finite : number.isFinite <;> simp [finite]
      | null | bool | int | text => simp [Value.literalFailure?]

end Renderer

/-! ## Drafts -/

section

variable (renderer : Renderer) (before : Bindings)

/-- A parameterized piece binds its value, if it has one. -/
theorem Piece.exists_run (mode : renderer.parameterized = true) (piece : Piece) :
    ∃ text, (piece.render renderer).run before = (.ok text, match piece.value? with
      | some value => (before.bind value).2
      | none => before) := by
  cases piece with
  | hole value => exact ⟨_, Renderer.run_value_parameterized mode value before⟩
  | dropped value =>
    exact ⟨"", Rendering.run_bind_ok (Renderer.run_value_parameterized mode value before)⟩
  | sql text => exact ⟨text, rfl⟩
  | name identifier => exact ⟨renderer.dialect.quote identifier, rfl⟩
  | quoted text => exact ⟨renderer.dialect.quoteLiteral text, rfl⟩

/-- A parameterized template binds its values one after another, whatever is bound already. -/
theorem Template.exists_run_gains (mode : renderer.parameterized = true) (template : Template) :
    ∃ text numbers after, (template.render renderer).run before = (.ok text, after) ∧
      Bindings.Gains before template.values numbers after := by
  induction template generalizing before with
  | nil => exact ⟨"", [], before, rfl, .nil before⟩
  | cons piece rest ih =>
    obtain ⟨first, run_first⟩ := piece.exists_run renderer before mode
    rw [Template.render, Rendering.run_bind_ok run_first, Template.values, List.filterMap_cons]
    cases piece.value? with
    | none =>
      obtain ⟨others, numbers, after, run, gains⟩ := ih before
      exact ⟨first ++ others, numbers, after, Rendering.run_bind_ok run, gains⟩
    | some value =>
      obtain ⟨others, numbers, after, run, gains⟩ := ih (before.bind value).2
      exact ⟨first ++ others, _, after, Rendering.run_bind_ok run,
        .cons (before.bind_bindsAt value) gains⟩

namespace Draft

/-- A parameterized draft binds its values, also if it fails after them. -/
theorem exists_run_gains (mode : renderer.parameterized = true) (draft : Draft) :
    ∃ outcome numbers after, (draft.render renderer).run before = (outcome, after) ∧
      (∀ cause, outcome = .error cause ↔ draft.failure = some cause) ∧
      Bindings.Gains before draft.pieces.values numbers after := by
  obtain ⟨text, numbers, after, run, gains⟩ :=
    Template.exists_run_gains renderer before mode draft.pieces
  rw [Draft.render, Rendering.run_bind_ok run]
  cases draft.failure with
  | none => exact ⟨.ok text, numbers, after, rfl, by simp, gains⟩
  | some cause => exact ⟨.error cause, numbers, after, rfl, by simp, gains⟩

/-- A draft whose values are inlined leaves the bindings alone. -/
theorem exists_run_literal (mode : renderer.parameterized = false) (draft : Draft) :
    ∃ outcome, (draft.render renderer).run before = (outcome, before) ∧
      ∀ cause, outcome = .error cause ↔
        (draft.pieces.values.findSome? Value.literalFailure?).or draft.failure = some cause := by
  have inlined := renderer.mapM_literal_eq_error_iff draft.pieces.values
  rw [Draft.render, Template.render_literal renderer mode draft.pieces 0]
  cases literals : draft.pieces.values.mapM renderer.literal with
  | error first =>
    refine ⟨.error first, rfl, fun cause => ?_⟩
    rw [(inlined first).mp literals]
    simp
  | ok texts =>
    have all : draft.pieces.values.findSome? Value.literalFailure? = none :=
      (exists_eq_ok_iff_of_error_iff inlined).mp ⟨texts, literals⟩
    rw [all]
    cases draft.failure with
    | none => exact ⟨.ok _, rfl, by simp⟩
    | some cause => exact ⟨.error cause, rfl, by simp⟩

/-- A draft fails at the first refusal of the actions that it follows. -/
theorem Follows.first_refusal {draft : Draft} {actions : List Action}
    (follows : draft.Follows renderer.dialect actions) :
    actions.findSome? renderer.refusal? =
      if renderer.parameterized then draft.failure
      else (draft.pieces.values.findSome? Value.literalFailure?).or draft.failure := by
  rw [renderer.findSome?_refusal?, ← follows.values, ← follows.failure]

end Draft

end

/-! ## Trees -/

/-- What is rendered into one text: a tree, or the grouping of a projection. -/
inductive Fragment
  | expression (expression : Expression)
  | order (order : Order)
  | projection (projection : Projection)
  | grouping (projection : Projection)

namespace Fragment

def render (renderer : Renderer) : Fragment → Rendering String
  | expression tree => tree.render renderer
  | order term => term.render renderer
  | projection selected => selected.render renderer
  | grouping selected => selected.renderGroup renderer

def actions : Fragment → List Action
  | expression tree => tree.actions
  | order term => term.expression.actions
  | projection selected => selected.actions
  | grouping selected => selected.groupActions

variable (renderer : Renderer) (fragment : Fragment)

theorem exists_draft : ∃ draft : Draft, fragment.render renderer = draft.render renderer ∧
    draft.Follows renderer.dialect fragment.actions := by
  cases fragment with
  | expression tree => exact ⟨_, tree.render_eq renderer, tree.follows_draft _ renderer.table⟩
  | order term =>
    exact ⟨_, term.render_eq renderer, (term.expression.follows_draft _ renderer.table).closing _⟩
  | projection selected =>
    exact ⟨_, selected.render_eq renderer, selected.follows_draft _ renderer.table⟩
  | grouping selected =>
    exact ⟨_, selected.renderGroup_eq renderer, selected.follows_draftGroup _ renderer.table⟩

/-- A rendering fails with the first refusal of its actions. Parameterized, it keeps what was bound
and binds the values before the refusal, each under a new name with a greater number than the one
before; otherwise it leaves the bindings as they are. -/
theorem effect_of_render (before : Bindings) :
    let (outcome, after) := (fragment.render renderer).run before
    (∀ cause, outcome = .error cause ↔
      fragment.actions.findSome? renderer.refusal? = some cause) ∧
    (renderer.parameterized = true →
      (∀ name value, before.values.find? name = some value →
        after.values.find? name = some value) ∧
      ∃ numbers, (numbers.map Bindings.automaticName).Nodup ∧
        Bindings.Gains before (renderer.dialect.taken fragment.actions) numbers after) ∧
    (renderer.parameterized = false → after = before) := by
  obtain ⟨draft, same, follows⟩ := fragment.exists_draft renderer
  rw [same, follows.first_refusal]
  cases mode : renderer.parameterized with
  | true =>
    obtain ⟨outcome, numbers, after, run, failed, gains⟩ :=
      draft.exists_run_gains renderer before mode
    rw [run]
    rw [follows.values] at gains
    exact ⟨failed, fun _ => ⟨fun _ _ => gains.find?_of_some, numbers, gains.nodup, gains⟩,
      by simp⟩
  | false =>
    obtain ⟨outcome, run, failed⟩ := draft.exists_run_literal renderer before mode
    rw [run]
    exact ⟨failed, by simp, fun _ => rfl⟩

end Fragment

end SqlQuery
