import SqlQuery.Proofs.Query.Alike
import SqlQuery.Proofs.Render.Modes

/-! # Values do not reach the text

The text of a parameterized statement, or the cause why there is none, is the same for alike queries.
Their parameters have the same names, and the two values of a name stand at one place of the trees.
-/

namespace SqlQuery

variable {related : Value → Value → Prop}

/-- Bindings of related values, made in the same order, agree on the names. -/
theorem Bindings.Automatic.find_rel {left right : Bindings} {values values' : List Value}
    (held : left.Automatic values) (held' : right.Automatic values')
    (alike : List.Forall₂ related values values') (name : String) :
    Option.Rel related (left.values.find? name) (right.values.find? name) := by
  by_cases automatic : ∃ index, name = automaticName index
  · obtain ⟨index, rfl⟩ := automatic
    rw [held.find_automaticName, held'.find_automaticName]
    clear held held'
    induction alike generalizing index with
    | nil => exact .none
    | cons head _ ih =>
      cases index with
      | zero => exact .some head
      | succ index => exact ih index
  · have absent {bindings : Bindings} {bound : List Value} (held : bindings.Automatic bound) :
        bindings.values.find? name = none := by
      apply Option.eq_none_iff_forall_ne_some.mpr
      intro value found
      obtain ⟨index, same, -⟩ := (held.find_iff name value).mp found
      exact automatic ⟨index, same⟩
    rw [absent held, absent held']
    exact .none

namespace Query

/-- Parameterized statements of alike queries have one text or fail for one cause, and their
parameters are related name by name. -/
theorem parameterized_of_alike {left right : Query} (alike : left.Alike related right)
    (mode : left.parameterized = true) (kind : StatementKind) :
    (left.render kind).1 = (right.render kind).1 ∧
      ∀ sql, (left.render kind).1 = .ok sql → ∀ name,
        Option.Rel related ((left.render kind).2.parameters.find? name)
          ((right.render kind).2.parameters.find? name) := by
  obtain ⟨after, held, left_eq⟩ := left.render_parameterized mode kind
  obtain ⟨after', held', right_eq⟩ :=
    right.render_parameterized (alike.parameterized.symm.trans mode) kind
  have drafts := alike.draft kind
  let write (index : Nat) (_ : Value) := right.dialect.marker ++ Bindings.automaticName index
  have written : ∀ index value value', related value value' →
      write index value = write index value' := fun _ _ _ _ => rfl
  have text : (left.draft kind).pieces.fill right.dialect write =
      (right.draft kind).pieces.fill right.dialect write := by
    rw [Template.fill, Template.fill]
    exact drafts.pieces.fillFrom_eq right.dialect written 0
  rw [left_eq, right_eq, alike.dialect, drafts.failure]
  cases failure : (right.draft kind).failure with
  | some cause => exact ⟨rfl, by simp⟩
  | none =>
    refine ⟨congrArg Except.ok text, ?_⟩
    intro sql _ name
    exact held.find_rel held' drafts.pieces.values name

theorem parameterized_people :
    ((people .postgres (.int 30) "Ann").render .full).1 =
        ((people .postgres .null "O'Neil").render .full).1 ∧
      ∀ sql, ((people .postgres (.int 30) "Ann").render .full).1 = .ok sql → ∀ name,
        Option.Rel (fun _ _ => True)
          (((people .postgres (.int 30) "Ann").render .full).2.parameters.find? name)
          (((people .postgres .null "O'Neil").render .full).2.parameters.find? name) :=
  parameterized_of_alike (people_alike .postgres trivial trivial) rfl .full

end Query

end SqlQuery
