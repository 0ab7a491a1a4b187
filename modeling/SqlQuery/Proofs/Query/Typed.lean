import SqlQuery.Proofs.Data.Traversal
import SqlQuery.Proofs.Query.Runs

/-! # Typed queries

A typed query reads its rows as values of a row type. Whatever the row type makes of the rows, it
sends what the untyped query sends and leaves the query in the same state; it returns the same
texts, counts and errors, and in the place of rows their values, or the failure of the first row
that is no value.
-/

namespace SqlQuery

/-! ## Reading rows -/

namespace Row

variable {α : Type} (deserialize : Deserializer α)

/-- Rows with their values, in order. -/
abbrev AreValues : List Row → List α → Prop :=
  List.Forall₂ fun row value => deserialize row.toDictionary = .ok value

/-- The first row that is no value, by its cause. -/
def FirstFailure (rows : List Row) (cause : ShapeError) : Prop :=
  ∃ before row after, rows = before ++ row :: after ∧
    (∀ earlier ∈ before, ∃ value, deserialize earlier.toDictionary = .ok value) ∧
    deserialize row.toDictionary = .error cause

theorem deserializeAll_eq_mapM (rows : List Row) :
    deserializeAll deserialize rows = rows.mapM fun row => deserialize row.toDictionary := by
  induction rows with
  | nil => rfl
  | cons row rest ih => rw [deserializeAll, ih, List.mapM_cons]

theorem deserializeAll_eq_ok_iff (rows : List Row) (values : List α) :
    deserializeAll deserialize rows = .ok values ↔ AreValues deserialize rows values := by
  rw [deserializeAll_eq_mapM, Traversal.mapM_eq_ok_iff]

theorem deserializeAll_eq_error_iff (rows : List Row) (cause : ShapeError) :
    deserializeAll deserialize rows = .error cause ↔ FirstFailure deserialize rows cause := by
  rw [deserializeAll_eq_mapM, Traversal.mapM_eq_error_iff]
  rfl

end Row

/-! ## Typed steps -/

/-- What a step of a typed query returns. -/
inductive Answer (α : Type)
  | done
  | text (sql : String)
  | rows (rows : List α)
  | count (count : Int64)

/-- The answer of an outcome without rows. -/
def Outcome.rowless? {α : Type} : Outcome → Option (Answer α)
  | done => some .done
  | text sql => some (.text sql)
  | count n => some (.count n)
  | rows _ | typed _ => none

namespace Step

/-- The window whose rows a step returns, if it returns rows. -/
def rowWindow? (own : Window) : Step → Option Window
  | list window => some window
  | listAll => some own
  | single => some ActiveQuery.firstRow
  | _ => none

/-- The rows of the window that a step returns. -/
def shown {β : Type} : Step → List β → List β
  | single, rows => rows.take 1
  | _, rows => rows

end Step

namespace ActiveQuery

section

variable {α : Type} (active : ActiveQuery) (deserialize : Deserializer α)

def renderAs (statement : Query → Except RenderError String × Query) :
    Except QueryError (Answer α) × ActiveQuery :=
  let (sql, active) := active.render statement
  ((sql.map Answer.text).mapError .render, active)

/-- Takes a step of a typed query. -/
def stepAs : Step → Except QueryError (Answer α) × ActiveQuery
  | .add condition => (.ok .done, active.update (·.add condition))
  | .addOrder order => (.ok .done, active.update (·.addOrder order))
  | .setProjection projection => (.ok .done, active.update (·.setProjection projection))
  | .setParameterized parameterized =>
    (.ok .done, active.update (·.setParameterized parameterized))
  | .setWindow window => (.ok .done, active.update (·.setWindow window))
  | .sql => active.renderAs Query.toSql
  | .countSql => active.renderAs Query.toCountSql
  | .selectSql => active.renderAs Query.toSelectSql
  | .list window =>
    let (rows, active) := active.listAs deserialize window
    (rows.map .rows, active)
  | .listAll =>
    let (rows, active) := active.listAllAs deserialize
    (rows.map .rows, active)
  | .single =>
    let (row, active) := active.singleAs deserialize
    (row.map (.rows ·.toList), active)
  | .count =>
    let (count, active) := active.count
    (count.map .count, active)

end

end ActiveQuery

def Answer.toOutcome : Answer Json → Outcome
  | done => .done
  | text sql => .text sql
  | rows values => .typed values
  | count n => .count n

namespace ActiveQuery

variable {α : Type} (active : ActiveQuery) (deserialize : Deserializer α)

/-- A step with a shape is a step of a typed query. -/
theorem step_some (shape : Shape) (step : Step) :
    active.step (some shape) step =
      Prod.map (Except.map Answer.toOutcome) id (active.stepAs shape.deserialize step) := by
  have rendered (result : Except RenderError String) :
      ((result.map Outcome.text).mapError QueryError.render) =
        ((result.map Answer.text).mapError .render).map Answer.toOutcome := by
    cases result <;> rfl
  have mapped {β γ δ : Type} (result : Except QueryError β) (inner : β → γ) (outer : γ → δ) :
      result.map (fun value => outer (inner value)) = (result.map inner).map outer := by
    cases result <;> rfl
  cases step with
  | add | addOrder | setProjection | setParameterized | setWindow => rfl
  | sql | countSql | selectSql => exact Prod.ext (rendered _) rfl
  | list | listAll => exact Prod.ext (mapped _ Answer.rows Answer.toOutcome) rfl
  | single => exact Prod.ext (mapped _ (Answer.rows ∘ Option.toList) Answer.toOutcome) rfl
  | count => exact Prod.ext (mapped _ Answer.count Answer.toOutcome) rfl

/-! ## Rows in the place of values -/

theorem listAs_snd (window : Window) :
    (active.listAs deserialize window).2 = (active.list window).2 :=
  (fetch_snd _ .full _ _).trans (fetch_snd _ .full _ _).symm

/-- The fetched rows are what is read. -/
theorem fetch_fst_eq (statement : Query → Except RenderError String × Query)
    (target : Option Target) (read : List Row → Except QueryError α) :
    (active.fetch statement target read).1 = (active.fetch statement target .ok).1.bind read := by
  rw [fetch, fetch]
  cases active.render statement with
  | mk outcome after =>
    cases outcome with
    | error cause => rfl
    | ok sql =>
      dsimp only
      cases after.send target sql with
      | mk answer left => cases answer <;> rfl

theorem listAs_fst (window : Window) :
    (active.listAs deserialize window).1 = (active.list window).1.bind (readAs deserialize) :=
  fetch_fst_eq _ _ _ _

/-- A typed list has the value of each row, in order, or fails with the first row that is none. -/
theorem listAs_of_list {window : Window} {rows : List Row}
    (listed : (active.list window).1 = .ok rows) :
    (∀ values, (active.listAs deserialize window).1 = .ok values ↔
        Row.AreValues deserialize rows values) ∧
      ∀ cause, (active.listAs deserialize window).1 = .error cause ↔
        ∃ failure, cause = .database (.deserialize failure) ∧
          Row.FirstFailure deserialize rows failure := by
  rw [listAs_fst, listed]
  change (∀ values, readAs deserialize rows = _ ↔ _) ∧ ∀ cause, readAs deserialize rows = _ ↔ _
  simp only [← Row.deserializeAll_eq_ok_iff, ← Row.deserializeAll_eq_error_iff, readAs, Row.readAll]
  cases Row.deserializeAll deserialize rows with
  | ok values => simp [Except.mapError]
  | error failure => simp [Except.mapError, eq_comm]

/-- A step of a typed query, compared with the step of the untyped one. -/
structure Simulates (step : Step) : Prop where
  /-- Both leave the same query and have sent the same requests. -/
  state : (active.stepAs deserialize step).2 = (active.step none step).2
  /-- Where no rows are returned, both return the same texts, counts and errors. -/
  rowless : step.rowWindow? active.query.window = none →
    (active.stepAs deserialize step).1.map some = (active.step none step).1.map Outcome.rowless?
  /-- Where the untyped query returns rows of a window, the typed one returns the values of a list
  in that window. -/
  rows : ∀ window, step.rowWindow? active.query.window = some window →
    (active.step none step).1 = (active.list window).1.map (fun rows => .rows (step.shown rows)) ∧
    (active.stepAs deserialize step).1 =
      (active.listAs deserialize window).1.map fun values => .rows (step.shown values)
  /-- A typed list fails where the untyped one does, for the same cause. -/
  error : ∀ window cause, (active.list window).1 = .error cause →
    (active.listAs deserialize window).1 = .error cause
  /-- The values of a list are those of all its rows, in order; if a row has none, the list is the
  failure of the first such row. -/
  values : ∀ window rows, (active.list window).1 = .ok rows →
    (∀ values, (active.listAs deserialize window).1 = .ok values ↔
      Row.AreValues deserialize rows values) ∧
    ∀ cause, (active.listAs deserialize window).1 = .error cause ↔
      ∃ failure, cause = .database (.deserialize failure) ∧
        Row.FirstFailure deserialize rows failure

theorem simulates (step : Step) : active.Simulates deserialize step where
  state := by
    cases step with
    | list window => exact active.listAs_snd deserialize window
    | listAll => exact active.listAs_snd deserialize active.query.window
    | single => exact active.listAs_snd deserialize firstRow
    | _ => rfl
  rowless returned := by
    have rendered (result : Except RenderError String) :
        ((result.map Answer.text).mapError QueryError.render).map some =
          (((result.map Outcome.text).mapError .render).map Outcome.rowless? :
            Except _ (Option (Answer α))) := by
      cases result <;> rfl
    have counted (result : Except QueryError Int64) :
        (result.map Answer.count).map some =
          ((result.map Outcome.count).map Outcome.rowless? : Except _ (Option (Answer α))) := by
      cases result <;> rfl
    cases step with
    | add | addOrder | setProjection | setParameterized | setWindow => rfl
    | sql | countSql | selectSql => exact rendered _
    | count => exact counted _
    | list | listAll | single => contradiction
  rows window returned := by
    have first {β γ : Type} (rows : Except QueryError (List β)) (outcome : List β → γ) :
        (rows.map List.head?).map (outcome ·.toList) =
          rows.map fun rows => outcome (rows.take 1) := by
      cases rows with
      | error cause => rfl
      | ok rows => cases rows <;> rfl
    cases step with
    | list own => obtain rfl := Option.some.inj returned; exact ⟨rfl, rfl⟩
    | listAll => obtain rfl := Option.some.inj returned; exact ⟨rfl, rfl⟩
    | single => obtain rfl := Option.some.inj returned; exact ⟨first _ _, first _ _⟩
    | _ => contradiction
  error window cause failed := by
    rw [listAs_fst, failed]
    rfl
  values _ _ listed := active.listAs_of_list deserialize listed

/-! ## Runs -/

/-- Takes steps one after another, each on the query as it is or wrapped with a row type. -/
def runAs : ActiveQuery → List (Option (Deserializer α) × Step) → ActiveQuery
  | active, [] => active
  | active, (none, step) :: rest => runAs (active.step none step).2 rest
  | active, (some deserialize, step) :: rest => runAs (active.stepAs deserialize step).2 rest

/-- Wrapping and unwrapping play no part in what a run leaves. -/
theorem runAs_eq_run (tape : List (Option (Deserializer α) × Step)) :
    active.runAs tape = active.run (tape.map fun taken => (none, taken.2)) := by
  induction tape generalizing active with
  | nil => rfl
  | cons taken rest ih =>
    obtain ⟨wrapper, step⟩ := taken
    cases wrapper with
    | none => exact ih _
    | some deserialize =>
      rw [runAs, (active.simulates deserialize step).state]
      exact ih _

/-- Take a query through any steps, wrapped with row types at some of them and not at others: it is
where the untyped query is after the same steps, and what a further typed step does is told by what
the untyped step does there. -/
theorem typed_simulates_untyped (start : ActiveQuery)
    (tape : List (Option (Deserializer α) × Step)) :
    let untyped := start.run (tape.map fun taken => (none, taken.2))
    start.runAs tape = untyped ∧
      ∀ (deserialize : Deserializer α) (step : Step), untyped.Simulates deserialize step :=
  ⟨start.runAs_eq_run tape, fun deserialize step => simulates _ deserialize step⟩

end ActiveQuery

end SqlQuery
