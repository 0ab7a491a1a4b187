import SqlQuery.Proofs.Query.Core

/-! # Markers

Bindings carry the marker that their placeholders start with. No rendering changes it, so an
expression that is rendered after another one still finds the marker of the dialect.
-/

namespace SqlQuery

/-- A rendering that leaves the marker of the bindings alone. -/
def Rendering.KeepsMarker {α : Type} (rendering : Rendering α) : Prop :=
  ∀ before, (rendering.run before).2.marker = before.marker

namespace Rendering

variable {α β : Type}

theorem keepsMarker_pure (result : α) : (pure result : Rendering α).KeepsMarker :=
  fun _ => rfl

theorem keepsMarker_ofExcept (result : Except RenderError α) :
    (MonadExcept.ofExcept result : Rendering α).KeepsMarker := by
  intro before
  cases result <;> rfl

theorem keepsMarker_bind {first : Rendering α} {next : α → Rendering β}
    (keeps : first.KeepsMarker) (keeps' : ∀ result, (next result).KeepsMarker) :
    (first >>= next).KeepsMarker := by
  intro before
  cases ran : first.run before with
  | mk outcome between =>
    have middle : between.marker = before.marker := by
      rw [← keeps before, ran]
    cases outcome with
    | error cause => rw [run_bind_error ran, middle]
    | ok result => rw [run_bind_ok ran, keeps' result between, middle]

end Rendering

open Rendering (keepsMarker_pure keepsMarker_ofExcept keepsMarker_bind)

theorem Renderer.keepsMarker_value (renderer : Renderer) (value : Value) :
    (renderer.value value).KeepsMarker := by
  rw [Renderer.value]
  split
  · exact fun _ => rfl
  · exact keepsMarker_ofExcept _

theorem Piece.keepsMarker_render (renderer : Renderer) (piece : Piece) :
    (piece.render renderer).KeepsMarker := by
  cases piece with
  | sql | name | quoted => exact keepsMarker_pure _
  | hole value => exact renderer.keepsMarker_value value
  | dropped value =>
    exact keepsMarker_bind (renderer.keepsMarker_value value) fun _ => keepsMarker_pure _

theorem Template.keepsMarker_render (renderer : Renderer) (template : Template) :
    (template.render renderer).KeepsMarker := by
  induction template with
  | nil => exact keepsMarker_pure _
  | cons piece rest ih =>
    exact keepsMarker_bind (piece.keepsMarker_render renderer) fun _ =>
      keepsMarker_bind ih fun _ => keepsMarker_pure _

theorem Draft.keepsMarker_render (renderer : Renderer) (draft : Draft) :
    (draft.render renderer).KeepsMarker := by
  refine keepsMarker_bind (Template.keepsMarker_render renderer _) ?_
  intro text
  split
  · exact keepsMarker_pure _
  · exact fun _ => rfl

theorem Expression.keepsMarker_render (renderer : Renderer) (expression : Expression) :
    (expression.render renderer).KeepsMarker := by
  rw [Expression.render_eq]
  exact Draft.keepsMarker_render renderer _

end SqlQuery
