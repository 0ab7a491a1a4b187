import SqlQuery.Proofs.Query.Failure
import SqlQuery.Proofs.Render.Actions

/-! # The choice of a dialect

The built-in dialects spell functions differently, but all have the same ones. So each takes in the
same values of a query and stops at the same action: a statement is rendered in all of them or in
none, it leaves the same parameters, and its failure differs in the name of the dialect only.
-/

namespace SqlQuery

/-! ## Functions by name -/

theorem Functions.contains_standardWith {changes : List (String × SqlFunction)}
    (known : ∀ change ∈ changes, change.1 ∈ standardEntries.map (·.1)) (name : String) :
    (standardWith changes).contains name =
      (standardEntries.map (·.1)).contains (Text.lowercase name) := by
  rw [contains, find?, standardWith, ← Dictionary.contains, Dictionary.contains_ofList,
    Bool.eq_iff_iff, List.contains_iff_mem, List.contains_iff_mem, List.map_append,
    List.mem_append, or_iff_left_iff_imp]
  intro changed
  obtain ⟨change, member, spelled⟩ := List.mem_map.mp changed
  exact spelled ▸ known change member

/-- The built-in dialects differ in how a function is spelled, not in which functions there are. -/
theorem DialectKind.contains_functions (kind : DialectKind) (name : String) :
    kind.dialect.functions.contains name =
      (Functions.standardEntries.map (·.1)).contains (Text.lowercase name) := by
  cases kind <;> exact Functions.contains_standardWith (by decide) name

@[simp] theorem DialectKind.dialect_name (kind : DialectKind) : kind.dialect.name = kind.name := by
  cases kind <;> rfl

/-! ## Failures by dialect -/

/-- The failure as it is with a dialect of another name. -/
def RenderError.inDialect (dialect : String) : RenderError → RenderError
  | functionNotFound function _ => functionNotFound function dialect
  | cause => cause

theorem Value.literalFailure?_inDialect (value : Value) (dialect : String) :
    value.literalFailure?.map (·.inDialect dialect) = value.literalFailure? := by
  cases value with
  | float number =>
    rw [literalFailure?]
    split <;> rfl
  | null | bool | int | text => rfl

theorem Value.findSome?_literalFailure?_inDialect (values : List Value) (dialect : String) :
    (values.findSome? literalFailure?).map (·.inDialect dialect) =
      values.findSome? literalFailure? := by
  rw [List.map_findSome?]
  exact congrArg (values.findSome? ·) (funext fun value => value.literalFailure?_inDialect dialect)

namespace Dialect

variable {left right : Dialect}

section

variable (same : ∀ name, left.functions.contains name = right.functions.contains name)

include same

theorem taken_eq_of_same_functions (actions : List Action) :
    left.taken actions = right.taken actions := by
  induction actions with
  | nil => rfl
  | cons action rest ih =>
    cases action with
    | value bound => rw [taken, taken, ih]
    | lookup function => rw [taken, taken, ih, same]

theorem missing?_eq_of_same_functions (actions : List Action) :
    right.missing? actions = (left.missing? actions).map (·.inDialect right.name) := by
  induction actions with
  | nil => rfl
  | cons action rest ih =>
    cases action with
    | value bound => exact ih
    | lookup function =>
      rw [missing?, missing?, ih, same]
      split <;> rfl

end

end Dialect

/-! ## Statements -/

namespace Query

/-- The query with another dialect. -/
def inDialect (query : Query) (dialect : Dialect) : Query :=
  { query with dialect }

variable (query : Query) {left right : Dialect}

section

variable (same : ∀ name, left.functions.contains name = right.functions.contains name)

include same

/-- Dialects with the same functions draft a statement with the same values, and with the same
failure up to their names. -/
theorem draft_of_same_functions (kind : StatementKind) :
    ((query.inDialect left).draft kind).pieces.values =
        ((query.inDialect right).draft kind).pieces.values ∧
      ((query.inDialect right).draft kind).failure =
        ((query.inDialect left).draft kind).failure.map (·.inDialect right.name) := by
  cases found : query.table with
  | none =>
    obtain ⟨here, fails⟩ := (query.inDialect left).draft_of_unmapped found kind
    obtain ⟨there, also⟩ := (query.inDialect right).draft_of_unmapped found kind
    rw [here, there, fails, also]
    exact ⟨rfl, rfl⟩
  | some table =>
    have mapped : query.table.isSome := by rw [found]; rfl
    have here := (query.inDialect left).follows_draft mapped kind
    have there := (query.inDialect right).follows_draft mapped kind
    rw [here.values, there.values, here.failure, there.failure]
    exact ⟨Dialect.taken_eq_of_same_functions same _, Dialect.missing?_eq_of_same_functions same _⟩

theorem failure?_of_same_functions (kind : StatementKind) :
    (query.inDialect right).failure? kind =
      ((query.inDialect left).failure? kind).map (·.inDialect right.name) := by
  obtain ⟨values, failure⟩ := query.draft_of_same_functions same kind
  rw [failure?, failure?, values, failure]
  change (if query.parameterized then _ else _) =
    (if query.parameterized then _ else _ : Option _).map _
  split
  · rfl
  · rw [Option.map_or, Value.findSome?_literalFailure?_inDialect]

theorem parameters_of_same_functions {kind : StatementKind} {sql text : String}
    (here : ((query.inDialect left).render kind).1 = .ok sql)
    (there : ((query.inDialect right).render kind).1 = .ok text) :
    ((query.inDialect left).render kind).2.parameters =
      ((query.inDialect right).render kind).2.parameters := by
  obtain ⟨first, parameters, held⟩ := parameters_of_render here
  obtain ⟨second, others, also⟩ := parameters_of_render there
  rw [(query.draft_of_same_functions same kind).1] at held
  rw [← parameters, ← others]
  exact held.values_eq also

end

/-- Whether a statement can be rendered, why it cannot, and which parameters are left does not
depend on which of the built-in dialects is chosen; the failure names the dialect. -/
theorem render_dialect_independent (left right : DialectKind) (kind : StatementKind) :
    let here := (query.inDialect left.dialect).render kind
    let there := (query.inDialect right.dialect).render kind
    ((∃ sql, here.1 = .ok sql) ↔ ∃ sql, there.1 = .ok sql) ∧
      (∀ cause, here.1 = .error cause → there.1 = .error (cause.inDialect right.name)) ∧
      here.2.parameters = there.2.parameters := by
  intro here there
  have same (name : String) :
      left.dialect.functions.contains name = right.dialect.functions.contains name := by
    rw [left.contains_functions, right.contains_functions]
  have failure := query.failure?_of_same_functions same kind
  rw [right.dialect_name] at failure
  have both : (∃ sql, here.1 = .ok sql) ↔ ∃ sql, there.1 = .ok sql := by
    rw [exists_render_eq_ok_iff, exists_render_eq_ok_iff, failure, Option.map_eq_none_iff]
  have causes (cause : RenderError) (failed : here.1 = .error cause) :
      there.1 = .error (cause.inDialect right.name) := by
    rw [render_eq_error_iff, failure, (render_eq_error_iff _ kind cause).mp failed]
    rfl
  refine ⟨both, causes, ?_⟩
  cases rendered : here.1 with
  | ok sql =>
    obtain ⟨text, also⟩ := both.mp ⟨sql, rendered⟩
    exact query.parameters_of_same_functions same rendered also
  | error cause =>
    have left_alone := (render_of_failure rendered).1
    have right_alone := (render_of_failure (causes cause rendered)).1
    rw [show here = _ from left_alone, show there = _ from right_alone]
    rfl

end Query

end SqlQuery
