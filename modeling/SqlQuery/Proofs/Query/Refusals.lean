import SqlQuery.Proofs.Expression.Reach
import SqlQuery.Proofs.Render.Effects

/-! # Which statements cannot be rendered

A statement fails if there is no table for it, or else if one of its actions is refused. The cause
is that of the first refusal, in the order in which the trees are rendered.
-/

namespace SqlQuery.Query

variable (query : Query) (kind : StatementKind)

theorem failure?_of_unmapped (unmapped : query.table = none) :
    query.failure? kind = some (.unmappedEntity query.target.entity) := by
  obtain ⟨values, failure⟩ := query.draft_of_unmapped unmapped kind
  rw [failure?, values, failure]
  split <;> rfl

theorem failure?_of_mapped (mapped : query.table.isSome) :
    query.failure? kind = (query.actions kind).findSome? query.renderer.refusal? := by
  rw [failure?]
  exact (Draft.Follows.first_refusal query.renderer (query.follows_draft mapped kind)).symm

/-- An action of a statement is refused if a function that is called is missing, or a number without
literal is inlined. -/
theorem exists_refusal_iff :
    (∃ cause, (query.actions kind).findSome? query.renderer.refusal? = some cause) ↔
      (∃ function, query.Calls kind function ∧
        query.dialect.functions.contains function = false) ∨
      (query.parameterized = false ∧
        ∃ number : Binary64, query.Reaches kind (.value (.float number)) ∧
          number.isFinite = false) := by
  simp only [← Option.isSome_iff_exists, List.findSome?_isSome_iff]
  simp only [Option.isSome_iff_exists, Renderer.refusal?_isSome_iff, ← lookup_mem_actions_iff,
    ← float_mem_actions_iff]
  constructor
  · rintro ⟨action, member, ⟨function, rfl, missing⟩ | ⟨mode, number, rfl, infinite⟩⟩
    · exact .inl ⟨function, member, missing⟩
    · exact .inr ⟨mode, number, member, infinite⟩
  · rintro (⟨function, member, missing⟩ | ⟨mode, number, member, infinite⟩)
    · exact ⟨_, member, .inl ⟨function, rfl, missing⟩⟩
    · exact ⟨_, member, .inr ⟨mode, number, rfl, infinite⟩⟩

/-- A statement cannot be rendered if and only if there is no table, the dialect lacks a function
that is called, or a number without literal is inlined. The failure is the missing table, or else
the first refusal. -/
theorem render_fails_iff :
    ((∃ cause, (query.render kind).1 = .error cause) ↔
      query.table = none ∨
      (∃ function, query.Calls kind function ∧
        query.dialect.functions.contains function = false) ∨
      (query.parameterized = false ∧
        ∃ number : Binary64, query.Reaches kind (.value (.float number)) ∧
          number.isFinite = false)) ∧
    ∀ cause, (query.render kind).1 = .error cause ↔ match query.table with
      | none => cause = .unmappedEntity query.target.entity
      | some _ => (query.actions kind).findSome? query.renderer.refusal? = some cause := by
  have causes (cause : RenderError) : (query.render kind).1 = .error cause ↔
      match query.table with
      | none => cause = .unmappedEntity query.target.entity
      | some _ => (query.actions kind).findSome? query.renderer.refusal? = some cause := by
    rw [render_eq_error_iff]
    cases found : query.table with
    | none => rw [query.failure?_of_unmapped kind found, Option.some.injEq, eq_comm]
    | some table => rw [query.failure?_of_mapped kind (by rw [found]; rfl)]
  refine ⟨?_, causes⟩
  simp only [causes]
  cases query.table with
  | none => simp
  | some table =>
    rw [query.exists_refusal_iff kind]
    simp

end SqlQuery.Query
