import SqlQuery.Proofs.Data.Traversal
import SqlQuery.Proofs.Number.Exact
import SqlQuery.Proofs.Query.Requests

/-! # The outcome of a count

A count is the single integer of a single row. Anything else is an error, and of several things that
are wrong the first one counts: the statement cannot be rendered, the connection gives no answer, a
row is no single integer, there is not one row.
-/

namespace SqlQuery

/-! ## Rows of one integer -/

namespace Row

/-- Values that are a single integer. -/
def AreInteger (values : List Value) (n : Int64) : Prop :=
  ∃ value, values = [value] ∧ value.IsInteger n

/-- What is wrong with values that are no single integer. -/
inductive Fault : List Value → DatabaseError → Prop
  | width {values : List Value} (other : values.length ≠ 1) :
    Fault values (.unexpectedColumns values.length)
  | kind {value : Value} (other : ∀ n, ¬ value.IsInteger n) :
    Fault [value] (.invalidScalar value.typeName)

theorem scalar_eq_ok_iff (row : Row) (n : Int64) :
    row.scalar = .ok n ↔ AreInteger row.values n := by
  obtain ⟨columns, values⟩ := row
  rcases values with - | ⟨value, - | ⟨second, rest⟩⟩
  · simp [scalar, AreInteger]
  · simp only [scalar, AreInteger, List.cons.injEq, and_true, exists_eq_left',
      ← Value.toInt?_eq_some_iff]
    cases value.toInt? <;> simp
  · simp [scalar, AreInteger]

theorem scalar_eq_error_iff (row : Row) (cause : DatabaseError) :
    row.scalar = .error cause ↔ Fault row.values cause := by
  obtain ⟨columns, values⟩ := row
  constructor
  · intro failed
    rcases values with - | ⟨value, - | ⟨second, rest⟩⟩
    · cases failed
      exact .width (by simp)
    · rw [scalar] at failed
      cases integer : value.toInt? with
      | some n => simp [integer] at failed
      | none =>
        simp only [integer, Except.error.injEq] at failed
        rw [← failed]
        refine .kind fun n isInteger => ?_
        rw [Value.toInt?_eq_some_iff.mpr isInteger] at integer
        contradiction
    · cases failed
      exact .width (by simp)
  · intro fault
    cases fault with
    | width other =>
      rcases values with - | ⟨value, - | ⟨second, rest⟩⟩
      · rfl
      · exact absurd rfl other
      · rfl
    | kind other =>
      have none : Value.toInt? _ = none :=
        Option.eq_none_iff_forall_ne_some.mpr fun n same =>
          other n (Value.toInt?_eq_some_iff.mp same)
      simp only [scalar, none]

theorem scalars_eq_mapM (rows : List Row) : scalars rows = rows.mapM scalar := by
  induction rows with
  | nil => rfl
  | cons row rest ih => rw [scalars, ih, List.mapM_cons]

end Row

/-! ## Results of one row -/

namespace ResultSet

/-- The fault of the first row that is no single integer. -/
def FirstFault (result : ResultSet) (cause : DatabaseError) : Prop :=
  ∃ before row after, result.rows = before ++ row :: after ∧
    (∀ earlier ∈ before, ∃ n, Row.AreInteger earlier n) ∧ Row.Fault row cause

variable (result : ResultSet)

theorem scalars_eq_ok_iff (counts : List Int64) :
    Row.scalars result.toRows = .ok counts ↔ List.Forall₂ Row.AreInteger result.rows counts := by
  rw [Row.scalars_eq_mapM, Traversal.mapM_eq_ok_iff, toRows, List.forall₂_map_left_iff]
  simp only [Row.scalar_eq_ok_iff]

theorem scalars_eq_error_iff (cause : DatabaseError) :
    Row.scalars result.toRows = .error cause ↔ result.FirstFault cause := by
  rw [Row.scalars_eq_mapM, toRows, List.mapM_map, Traversal.mapM_eq_error_iff, FirstFault]
  simp only [Traversal.FirstFailure, Function.comp_apply, Row.scalar_eq_ok_iff,
    Row.scalar_eq_error_iff]

theorem exists_scalars_iff :
    (∃ counts, Row.scalars result.toRows = .ok counts) ↔
      ∀ row ∈ result.rows, ∃ n, Row.AreInteger row n := by
  rw [Row.scalars_eq_mapM, Traversal.exists_mapM_eq_ok_iff, toRows, List.forall_mem_map]
  simp only [Row.scalar_eq_ok_iff]

theorem readCount_eq_ok_iff (n : Int64) :
    ActiveQuery.readCount result.toRows = .ok n ↔
      ∃ value, result.rows = [[value]] ∧ value.IsInteger n := by
  have single : Row.scalars result.toRows = .ok [n] ↔
      ∃ value, result.rows = [[value]] ∧ value.IsInteger n := by
    rw [scalars_eq_ok_iff]
    constructor
    · intro each
      obtain ⟨row, rest, ⟨value, rfl, integer⟩, later, same⟩ := List.forall₂_cons_right_iff.mp each
      cases later
      exact ⟨value, same, integer⟩
    · rintro ⟨value, same, integer⟩
      rw [same]
      exact .cons ⟨value, rfl, integer⟩ .nil
  rw [← single, ActiveQuery.readCount]
  split
  · rename_i cause failed
    simp [failed]
  · rename_i count counted
    simp [counted]
  · rename_i counts several counted
    simp only [counted, reduceCtorEq, Except.ok.injEq, false_iff]
    exact several n

/-- A fault goes before a wrong number of rows. -/
theorem readCount_eq_error_iff (cause : QueryError) :
    ActiveQuery.readCount result.toRows = .error cause ↔
      (∃ fault, result.FirstFault fault ∧ cause = .database fault) ∨
        (∀ row ∈ result.rows, ∃ n, Row.AreInteger row n) ∧ result.rows.length ≠ 1 ∧
          cause = .cardinality 1 result.rows.length := by
  have lengths {counts : List Int64} (counted : Row.scalars result.toRows = .ok counts) :
      result.rows.length = counts.length :=
    ((result.scalars_eq_ok_iff counts).mp counted).length_eq
  simp only [← scalars_eq_error_iff, ← exists_scalars_iff, ActiveQuery.readCount]
  split
  · rename_i fault failed
    simp [failed, eq_comm]
  · rename_i count counted
    simp [counted, lengths counted]
  · rename_i counts several counted
    have other : counts.length ≠ 1 := by
      intro one
      obtain ⟨count, same⟩ := List.length_eq_one_iff.mp one
      exact several count same
    simp [counted, lengths counted, other, eq_comm]

end ResultSet

/-! ## Counts -/

namespace ActiveQuery

variable (active : ActiveQuery)

theorem count_of_failure {cause : RenderError}
    (failed : (active.query.render .count).1 = .error cause) :
    (active.count).1 = .error (.render cause) :=
  fetch_fst active .count none readCount failed

theorem count_of_request {request : Request}
    (requested : active.query.request? .count none = some request) :
    (active.count).1 = match active.connection.answer active.sent request with
      | .error message => .error (.database (.execution message))
      | .ok result => readCount result.toRows := by
  change (active.fetch (·.render .count) none readCount).1 = _
  rw [Query.request?] at requested
  rw [fetch, render]
  cases rendered : active.query.render .count with
  | mk outcome after =>
    rw [rendered] at requested
    cases outcome with
    | error cause => contradiction
    | ok sql =>
      obtain rfl := Option.some.inj requested
      dsimp only [send, Connection.rows]
      cases active.connection.answer active.sent ⟨none, sql, after.parameters⟩ <;> rfl

/-- Why a count fails. -/
inductive CountFails : QueryError → Prop
  | render {cause : RenderError} (failed : (active.query.render .count).1 = .error cause) :
    CountFails (.render cause)
  | execution {request : Request} {message : String}
    (requested : active.query.request? .count none = some request)
    (refused : active.connection.answer active.sent request = .error message) :
    CountFails (.database (.execution message))
  | fault {request : Request} {result : ResultSet} {fault : DatabaseError}
    (requested : active.query.request? .count none = some request)
    (answered : active.connection.answer active.sent request = .ok result)
    (first : result.FirstFault fault) : CountFails (.database fault)
  | cardinality {request : Request} {result : ResultSet}
    (requested : active.query.request? .count none = some request)
    (answered : active.connection.answer active.sent request = .ok result)
    (integers : ∀ row ∈ result.rows, ∃ n, Row.AreInteger row n)
    (other : result.rows.length ≠ 1) : CountFails (.cardinality 1 result.rows.length)

/-- A statement can be rendered and then has a request, or it fails for a cause. -/
theorem request?_cases :
    (∃ cause, (active.query.render .count).1 = .error cause ∧
      active.query.request? .count none = none) ∨
      ∃ request, active.query.request? .count none = some request := by
  cases rendered : (active.query.render .count).1 with
  | error cause => exact .inl ⟨cause, rfl, Query.request?_of_failure none rendered⟩
  | ok sql => exact .inr ⟨_, Query.request?_of_rendered none rendered⟩

theorem count_eq_ok_iff (n : Int64) :
    (active.count).1 = .ok n ↔ ∃ request result value,
      active.query.request? .count none = some request ∧
        active.connection.answer active.sent request = .ok result ∧
          result.rows = [[value]] ∧ value.IsInteger n := by
  rcases active.request?_cases with ⟨cause, failed, unsent⟩ | ⟨request, requested⟩
  · simp [active.count_of_failure failed, unsent]
  · rw [active.count_of_request requested, requested]
    cases answered : active.connection.answer active.sent request with
    | error message => simp [answered]
    | ok result => simp [answered, ResultSet.readCount_eq_ok_iff]

theorem count_eq_error_iff (cause : QueryError) :
    (active.count).1 = .error cause ↔ active.CountFails cause := by
  constructor
  · intro counted
    rcases active.request?_cases with ⟨found, failed, unsent⟩ | ⟨request, requested⟩
    · rw [active.count_of_failure failed] at counted
      cases counted
      exact .render failed
    · rw [active.count_of_request requested] at counted
      cases answered : active.connection.answer active.sent request with
      | error message =>
        rw [answered] at counted
        cases counted
        exact .execution requested answered
      | ok result =>
        rw [answered] at counted
        rcases (result.readCount_eq_error_iff cause).mp counted with
          ⟨fault, first, rfl⟩ | ⟨integers, other, rfl⟩
        · exact .fault requested answered first
        · exact .cardinality requested answered integers other
  · intro fails
    cases fails with
    | render failed => exact active.count_of_failure failed
    | execution requested refused => rw [active.count_of_request requested, refused]
    | @fault _ result fault requested answered first =>
      rw [active.count_of_request requested, answered]
      exact (result.readCount_eq_error_iff _).mpr (.inl ⟨fault, first, rfl⟩)
    | @cardinality _ result requested answered integers other =>
      rw [active.count_of_request requested, answered]
      exact (result.readCount_eq_error_iff _).mpr (.inr ⟨integers, other, rfl⟩)

/-- A count returns a number exactly if its statement can be rendered, the connection answers it
with one row of one value, and that value is the number. Otherwise it returns the first thing that is
wrong, and a statement that cannot be rendered is not sent. -/
theorem count_returns_iff :
    (∀ n, (active.count).1 = .ok n ↔ ∃ request result value,
      active.query.request? .count none = some request ∧
        active.connection.answer active.sent request = .ok result ∧
          result.rows = [[value]] ∧ value.IsInteger n) ∧
    (∀ cause, (active.count).1 = .error cause ↔ active.CountFails cause) ∧
    (active.count).2.sent = active.sent ++ (active.query.request? .count none).toList ∧
    ∀ cause, (active.query.render .count).1 = .error cause →
      active.query.request? .count none = none :=
  ⟨active.count_eq_ok_iff, active.count_eq_error_iff, active.step_sent none .count,
    fun _ failed => Query.request?_of_failure none failed⟩

end ActiveQuery

end SqlQuery
