import SqlQuery.CommandLine.Commands
import SqlQuery.Proofs.Config.RoundTrip
import SqlQuery.Proofs.Query.Failure
import SqlQuery.Proofs.Query.Runs

/-! # Rendering and running a query file

The commands build and page a query in different orders, and a run renders it twice: once to be sent
and once for its report. Both renderings give what the render command gives: a query that has been
rendered is rendered to the same again, and the window of a query plays no part in its count.
-/

namespace SqlQuery

namespace Query

variable {query after : Query} {kind : StatementKind} {sql : String}

/-- What a rendering leaves is rendered to the same. -/
theorem render_again (rendered : query.render kind = (.ok sql, after)) :
    after.render kind = (.ok sql, after) := by
  rw [query.render_eq] at rendered
  obtain ⟨bindings, run⟩ := query.exists_run_of_compile (congrArg Prod.fst rendered)
  rw [query.compile_of_run run] at rendered
  obtain rfl := (Prod.mk.inj rendered).2
  have same : Query.draft { query with parameters := bindings.values } kind = query.draft kind := by
    cases kind <;> rfl
  rw [Query.render_eq, same]
  exact compile_of_run { query with parameters := bindings.values } run

theorem render_count_setWindow (query : Query) (window : Window) :
    ((query.setWindow window).render .count).1 = (query.render .count).1 ∧
      ((query.setWindow window).render .count).2.parameters = (query.render .count).2.parameters :=
  query.compile_withOrders query.countStatement query.orders window

end Query

namespace ActiveQuery

variable {active : ActiveQuery} {kind : StatementKind}

theorem render_of_rendered {sql : String} {after : Query}
    (rendered : active.query.render kind = (.ok sql, after)) :
    active.render (·.render kind) = (.ok sql, { active with query := after }) := by
  rw [render, rendered]

theorem render_of_failure {cause : RenderError}
    (failed : (active.query.render kind).1 = .error cause) :
    (active.render (·.render kind)).1 = .error cause ∧
      (active.render (·.render kind)).2.sent = active.sent :=
  ⟨failed, rfl⟩

section

variable {α : Type} (recipient : Option Target) (read : List Row → Except QueryError α)

theorem fetch_of_failure {cause : RenderError}
    (failed : (active.query.render kind).1 = .error cause) :
    (active.fetch (·.render kind) recipient read).1 = .error (.render cause) ∧
      (active.fetch (·.render kind) recipient read).2.sent = active.sent := by
  rw [fetch_snd]
  exact ⟨active.fetch_fst kind recipient read failed,
    afterRendering_sent_of_failure recipient true failed⟩

theorem fetch_of_rendered {sql : String} {after : Query}
    (rendered : active.query.render kind = (.ok sql, after)) :
    (active.fetch (·.render kind) recipient read).2.query = after ∧
      (active.fetch (·.render kind) recipient read).2.sent =
        active.sent ++ [⟨recipient, sql, after.parameters⟩] := by
  rw [fetch_snd, afterRendering_query, rendered]
  exact ⟨rfl, afterRendering_sent_of_rendered recipient true rendered⟩

end

end ActiveQuery

namespace CommandLine

/-- What running makes of a rendering: it fails for the same cause before anything is sent, or it
sends the text with what it bound, and reports the text if it succeeds. -/
structure Executes (rendered : Except RenderError String × Query) (recipient : Option Target)
    (ran : Except QueryError RunReport × ActiveQuery) : Prop where
  failed : ∀ cause, rendered.1 = .error cause → ran.1 = .error (.render cause) ∧ ran.2.sent = []
  sent : ∀ sql, rendered.1 = .ok sql → ran.2.sent = [⟨recipient, sql, rendered.2.parameters⟩]
  reported : ∀ sql report, rendered.1 = .ok sql → ran.1 = .ok report → report.sql = sql

theorem Executes.of_failure {after : Query} {cause : RenderError} {recipient : Option Target}
    {ran : Except QueryError RunReport × ActiveQuery} (failed : ran.1 = .error (.render cause))
    (unsent : ran.2.sent = []) : Executes (.error cause, after) recipient ran :=
  ⟨fun _ same => by cases same; exact ⟨failed, unsent⟩, nofun, nofun⟩

theorem Executes.of_rendered {after : Query} {sql : String} {recipient : Option Target}
    {ran : Except QueryError RunReport × ActiveQuery}
    (sent : ran.2.sent = [⟨recipient, sql, after.parameters⟩])
    (reported : ∀ report, ran.1 = .ok report → report.sql = sql) :
    Executes (.ok sql, after) recipient ran :=
  ⟨nofun, fun _ same => by cases same; exact sent,
    fun _ report same ok => by cases same; exact reported report ok⟩

theorem Executes.congr {rendered other : Except RenderError String × Query}
    {recipient : Option Target} {ran : Except QueryError RunReport × ActiveQuery}
    (text : rendered.1 = other.1) (parameters : rendered.2.parameters = other.2.parameters)
    (executes : Executes rendered recipient ran) : Executes other recipient ran where
  failed := text ▸ executes.failed
  sent := text ▸ parameters ▸ executes.sent
  reported := text ▸ executes.reported

section

variable (entity : String) (active : ActiveQuery) (unused : active.sent = [])

include unused

/-- A list is sent as it is rendered, and rendered again for the report. -/
theorem runList_executes (window : Window) :
    Executes ((active.query.setWindow window).render .full) (some active.query.target)
      (runList entity window active) := by
  let paged := active.update (·.setWindow window)
  cases rendered : paged.query.render .full with
  | mk outcome after =>
    rw [show (active.query.setWindow window).render .full = (outcome, after) from rendered]
    cases fetched : active.list window with
    | mk rows left =>
      have same : paged.fetch (·.render .full) (some active.query.target) .ok = (rows, left) :=
        fetched
      rw [runList, fetched]
      cases outcome with
      | error cause =>
        obtain ⟨failed, unsent⟩ := ActiveQuery.fetch_of_failure (some active.query.target) .ok
          (congrArg Prod.fst rendered)
        rw [same] at failed unsent
        obtain rfl : rows = .error (.render cause) := failed
        exact .of_failure rfl (unsent.trans unused)
      | ok sql =>
        obtain ⟨leaves, sent⟩ :=
          ActiveQuery.fetch_of_rendered (some active.query.target) .ok rendered
        rw [same] at leaves sent
        obtain rfl : left.query = after := leaves
        have once : left.sent = [⟨some active.query.target, sql, left.query.parameters⟩] :=
          sent.trans (congrArg (· ++ _) unused)
        cases rows with
        | error cause => exact .of_rendered once nofun
        | ok rows =>
          have again : left.render Query.toSql = (.ok sql, left) :=
            ActiveQuery.render_of_rendered (Query.render_again rendered)
          dsimp only
          rw [again]
          exact .of_rendered once fun report ok => by cases ok; rfl

/-- A count is rendered for the report, and again to be sent. -/
theorem runCount_executes :
    Executes (active.query.render .count) none (runCount entity active) := by
  cases rendered : active.query.render .count with
  | mk outcome after =>
    cases outcome with
    | error cause =>
      obtain ⟨failed, unsent⟩ := ActiveQuery.render_of_failure (congrArg Prod.fst rendered)
      cases first : active.render Query.toCountSql with
      | mk text left =>
        have same : active.render (·.render .count) = (text, left) := first
        rw [same] at failed unsent
        obtain rfl : text = .error cause := failed
        rw [runCount, first]
        exact .of_failure rfl (unsent.trans unused)
    | ok sql =>
      let again : ActiveQuery := { active with query := after }
      have first : active.render Query.toCountSql = (.ok sql, again) :=
        ActiveQuery.render_of_rendered rendered
      have same : again.query.render .count = (.ok sql, after) := Query.render_again rendered
      have sent : again.count.2.sent = [⟨none, sql, after.parameters⟩] :=
        (ActiveQuery.fetch_of_rendered none ActiveQuery.readCount same).2.trans
          (congrArg (· ++ _) unused)
      rw [runCount, first]
      refine .of_rendered sent ?_
      intro report ok
      cases counted : again.count.1 with
      | error cause => simp [counted, Except.map] at ok
      | ok count =>
        simp only [counted, Except.map] at ok
        cases ok
        rfl

end

/-- What the query of a file is built for. -/
theorem queryOf_target (configuration : Configuration) (parameterized : Bool) (file : QueryFile) :
    (queryOf configuration parameterized file).target = .named file.entity := by
  rw [queryOf, QueryFile.apply, Query.foldl_add, Query.foldl_addOrder]
  cases file.projection <;> rfl

/-- The statement of a file that the commands render. -/
def statementOf (configuration : Configuration) (options : QueryOptions) (file : QueryFile) :
    Except RenderError String × Query :=
  ((queryOf configuration configuration.parameterized file).setWindow (options.window file)).render
    (if options.count then .count else .full)

/-- The report of a statement. -/
def reportOf (configuration : Configuration) (options : QueryOptions) (file : QueryFile) :
    Except RenderError String × Query → Except CommandError RenderReport
  | (.error cause, _) => .error (.query (.render cause))
  | (.ok sql, after) =>
    .ok { entity := file.entity, dialect := configuration.dialect.name, count := options.count,
          sql, parameters := after.parameters }

section

variable {files : Files} {configuration : Configuration} {options : QueryOptions} {file : QueryFile}
  (loaded : QueryFile.load files options.path = .ok file)

include loaded

theorem render_of_load :
    render files configuration options false =
      reportOf (options.adjust configuration) options file
        (statementOf (options.adjust configuration) options file) := by
  have selected (query : Query) : (if options.count then query.toCountSql else query.toSql) =
      query.render (if options.count then .count else .full) := by
    cases options.count <;> rfl
  generalize stated : statementOf (options.adjust configuration) options file = statement
  rw [statementOf] at stated
  simp only [render, loaded, selected, Bool.not_false, Bool.and_true, Except.mapError, bind,
    Except.bind, stated]
  obtain ⟨outcome, after⟩ := statement
  cases outcome <;> rfl

theorem run_of_load {open? : Connect} {url : Option String} {connection : Connection}
    (opened : connect open? (options.adjust configuration) url = .ok connection) :
    ∃ ran : Except QueryError RunReport × ActiveQuery,
      Executes (statementOf (options.adjust configuration) options file)
        (if options.count then none else some (.named file.entity)) ran ∧
      run open? url files configuration options = (ran.1.mapError .query, ran.2.sent) := by
  rw [run, opened, loaded, statementOf]
  let adjusted := options.adjust configuration
  let query := queryOf adjusted adjusted.parameterized file
  let active : ActiveQuery := { query, connection }
  cases options.count with
  | true =>
    obtain ⟨text, parameters⟩ := query.render_count_setWindow (options.window file)
    have executes : Executes (query.render .count) none (runCount file.entity active) :=
      runCount_executes file.entity active rfl
    exact ⟨_, executes.congr text.symm parameters.symm, rfl⟩
  | false =>
    have executes := runList_executes file.entity active rfl (options.window file)
    rw [show active.query.target = _ from queryOf_target _ _ file] at executes
    exact ⟨_, executes, rfl⟩

end

/-- A run and a rendering of one query file agree: if the file cannot be rendered, the run fails for
the same cause and sends nothing; otherwise it sends the rendered text with the rendered parameters,
once, and that text is what it reports. -/
theorem run_sends_rendered (open? : Connect) (url : Option String) (files : Files)
    (configuration : Configuration) (options : QueryOptions) {connection : Connection}
    (opened : connect open? (options.adjust configuration) url = .ok connection) :
    let rendered := render files configuration options false
    let ran := run open? url files configuration options
    (∀ cause, rendered = .error cause → ran = (.error cause, [])) ∧
      ∀ report, rendered = .ok report →
        ran.2 = [⟨if options.count then none else some (.named report.entity), report.sql,
          report.parameters⟩] ∧
        ∀ result, ran.1 = .ok result → result.sql = report.sql := by
  intro rendered ran
  cases loaded : QueryFile.load files options.path with
  | error cause =>
    have unrendered : rendered = .error (.load cause) := by
      simp only [rendered, render, loaded]
      rfl
    have unsent : ran = (.error (.load cause), []) := by
      simp only [ran, run, opened, loaded]
    rw [unrendered, unsent]
    exact ⟨fun _ same => by cases same; rfl, nofun⟩
  | ok file =>
    obtain ⟨outcome, executes, run_eq⟩ := run_of_load loaded opened
    rw [show ran = _ from run_eq]
    rw [show rendered = _ from render_of_load loaded]
    cases stated : statementOf (options.adjust configuration) options file with
    | mk result after =>
      rw [stated] at executes
      cases result with
      | error cause =>
        obtain ⟨failed, unsent⟩ := executes.failed cause rfl
        rw [failed, unsent]
        exact ⟨fun _ same => by cases same; rfl, nofun⟩
      | ok sql =>
        refine ⟨nofun, ?_⟩
        intro report same
        obtain rfl := Except.ok.inj same
        refine ⟨executes.sent sql rfl, ?_⟩
        intro result ok
        cases ended : outcome.1 with
        | error cause => simp [ended, Except.mapError] at ok
        | ok reported =>
          simp only [ended, Except.mapError, Except.ok.injEq] at ok
          exact ok ▸ executes.reported sql reported rfl ended

/-- A query file is loaded from its text. -/
theorem load_of_text {files : Files} {path : String} {file : QueryFile}
    (restored : ∀ value ∈ file.values, value.Restored Numeral.scaled?)
    (shallow : file.toJson.depth ≤ Json.nestingLimit)
    (written : files path = .ok file.toJson.compact.toUTF8) :
    QueryFile.load files path = .ok file := by
  have text : files.text path = .ok file.toJson.compact := by
    have valid := file.toJson.compact.isValidUTF8
    simp only [Files.text, written, bind, Except.bind, String.fromUTF8?, String.toUTF8,
      dif_pos valid]
    rfl
  have read := ((QueryFile.faithful_toJson restored).readsBack shallow
    (QueryFile.ofJson?_toJson restored)).1
  rw [QueryFile.load, text]
  dsimp only
  rw [Json.read?_eq_readBy?, read]

/-! ## A list of adults -/

namespace Adults

def file : QueryFile :=
  { entity := "Person"
    conditions := [.simple (.field "age") ">=" (.value (.int 18))]
    orders := [⟨.field "name", true⟩]
    window := ⟨some 5, 2⟩ }

def files : Files := fun _ => .ok file.toJson.compact.toUTF8

def configuration : Configuration :=
  { dialect := .mysql
    tables := .ofList [("Person", ⟨"people", [.same "name", .mapped "age" "years"]⟩)]
    database := some { connectionString := some "postgres://localhost/people" } }

/-- The dialect and the limit are those of the command line. -/
def options : QueryOptions := { path := "adults.json", dialect := some .postgres, limit := some 1 }

def connection : Connection := .scripted [.ok ⟨["name"], [[.text "Ann"]]⟩]

theorem loaded : QueryFile.load files options.path = .ok file :=
  load_of_text (by decide +kernel) (by decide +kernel) rfl

theorem rendered : ∃ report, render files configuration options false = .ok report := by
  have stated : ∃ sql, (statementOf (options.adjust configuration) options file).1 = .ok sql :=
    (Query.exists_render_eq_ok_iff _ .full).mpr (by decide +kernel)
  obtain ⟨sql, stated⟩ := stated
  rw [render_of_load loaded, ← Prod.eta (statementOf _ _ _), stated]
  exact ⟨_, rfl⟩

theorem run_sends_rendered_adults :
    let ran := run (fun _ _ => .ok connection) none files configuration options
    connect (fun _ _ => .ok connection) (options.adjust configuration) none = .ok connection ∧
      ∃ report, render files configuration options false = .ok report ∧
        ran.2 = [⟨some (.named report.entity), report.sql, report.parameters⟩] ∧
        ∀ result, ran.1 = .ok result → result.sql = report.sql := by
  obtain ⟨report, rendered⟩ := rendered
  have opened : connect (fun _ _ => .ok connection) (options.adjust configuration) none =
      .ok connection := rfl
  have agrees :=
    run_sends_rendered (fun _ _ => .ok connection) none files configuration options opened
  exact ⟨opened, report, rendered, agrees.2 report rendered⟩

end Adults

end CommandLine

end SqlQuery
