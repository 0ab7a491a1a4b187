import SqlQuery.Proofs.CommandLine.Agreement
import SqlQuery.Proofs.Query.Requests
import SqlQuery.Proofs.Query.Windows

/-! # Windows from every side

The window of a statement is set on a query, given to a listing, written in a query file or given as
options of a command. All of them give the same statement, which tells two windows apart unless
neither has a limit.
-/

namespace SqlQuery.CommandLine

/-- Options that ask for the rows of a query in a window, through a query file. -/
structure AsksFor (files : Files) (configuration : Configuration) (options : QueryOptions)
    (literal : Bool) (query : Query) (window : Window) : Prop where
  rows : options.count = false
  loaded : ∃ file, QueryFile.load files options.path = .ok file ∧
    options.window file = window ∧
    queryOf (options.adjust configuration)
      ((options.adjust configuration).parameterized && !literal) file = query

/-- The statement of a query in a window, wherever the window comes from. -/
structure StatesIn (query : Query) (window : Window) (sql : String) : Prop where
  set : ((query.setWindow window).render .full).1 = .ok sql
  listed : ∀ (active : ActiveQuery) (shape : Option Shape), active.query = query →
    ∃ parameters, (active.step shape (.list window)).2.sent =
      active.sent ++ [⟨some query.target, sql, parameters⟩]
  reported : ∀ files configuration options literal,
    AsksFor files configuration options literal query window →
      ∃ report, render files configuration options literal = .ok report ∧ report.sql = sql
  ran : ∀ (open? : Connect) url files configuration options connection,
    connect open? (options.adjust configuration) url = .ok connection →
    AsksFor files configuration options false query window →
      ∃ parameters, (run open? url files configuration options).2 =
        [⟨some query.target, sql, parameters⟩]

section

variable {query : Query} {window : Window} {sql : String}

section

variable {files : Files} {configuration : Configuration} {options : QueryOptions}
  (rendered : ((query.setWindow window).render .full).1 = .ok sql)

include rendered

theorem AsksFor.exists_report {literal : Bool}
    (asks : AsksFor files configuration options literal query window) :
    ∃ report, render files configuration options literal = .ok report ∧ report.sql = sql := by
  obtain ⟨file, loaded, rfl, rfl⟩ := asks.loaded
  rw [Query.render] at rendered
  simp only [CommandLine.render, loaded, asks.rows, Except.mapError, bind, Except.bind,
    Bool.false_eq_true, if_false, rendered]
  exact ⟨_, rfl, rfl⟩

theorem AsksFor.exists_sent {open? : Connect} {url : Option String} {connection : Connection}
    (opened : connect open? (options.adjust configuration) url = .ok connection)
    (asks : AsksFor files configuration options false query window) :
    ∃ parameters, (run open? url files configuration options).2 =
      [⟨some query.target, sql, parameters⟩] := by
  obtain ⟨file, loaded, rfl, rfl⟩ := asks.loaded
  obtain ⟨ran, executes, run_eq⟩ := run_of_load loaded opened
  rw [Bool.not_false, Bool.and_true] at rendered ⊢
  have stated : (statementOf (options.adjust configuration) options file).1 = .ok sql := by
    rw [statementOf, asks.rows]
    exact rendered
  rw [asks.rows] at executes
  rw [run_eq, executes.sent sql stated, queryOf_target]
  exact ⟨_, rfl⟩

end

theorem statesIn_of_rendered (rendered : ((query.setWindow window).render .full).1 = .ok sql) :
    StatesIn query window sql where
  set := rendered
  listed active shape same := by
    subst same
    rw [ActiveQuery.step_sent, Step.request?, Query.request?_of_rendered _ rendered]
    exact ⟨_, rfl⟩
  reported _ _ _ _ asks := asks.exists_report rendered
  ran _ _ _ _ _ _ opened asks := asks.exists_sent rendered opened

/-- The statement in a window with a limit ends with the window, and a nonzero offset stands there. In
any other window there is a statement too, and it is the same only if the window is the same or
neither window has a limit. -/
theorem windows_told_apart (rendered : ((query.setWindow window).render .full).1 = .ok sql) :
    StatesIn query window sql ∧
      (∀ limit, window.limit = some limit →
        (∃ before, sql = before ++ query.dialect.windowText limit window.offset) ∧
        (0 < window.offset → ∃ before after, query.dialect.windowText limit window.offset =
          before ++ query.dialect.offsetText window.offset ++ after)) ∧
      ∀ other, ∃ text, StatesIn query other text ∧
        (text = sql ↔ other = window ∨ other.limit = none ∧ window.limit = none) := by
  obtain ⟨select, order, states⟩ := Query.exists_render_setWindow rendered
  obtain rfl : query.dialect.inWindow select order window = sql :=
    Except.ok.inj ((states window).symm.trans rendered)
  refine ⟨statesIn_of_rendered rendered, ?_, ?_⟩
  · intro limit limited
    refine ⟨?_, query.dialect.exists_windowText_eq limit⟩
    obtain ⟨before, -, written⟩ := query.dialect.exists_page_eq_windowText select order
    refine ⟨before, ?_⟩
    rw [Dialect.inWindow, limited]
    exact written limit window.offset
  · intro other
    exact ⟨_, statesIn_of_rendered (states other), Dialect.inWindow_eq_iff select order other window⟩

end

namespace Adults

def query : Query :=
  queryOf (options.adjust configuration) true file

theorem asksFor : AsksFor files configuration options false query ⟨some 1, 2⟩ where
  rows := rfl
  loaded := ⟨file, loaded, rfl, rfl⟩

/-- The offset of the file appears, and leaving it out gives another statement. -/
theorem windows_of_adults :
    AsksFor files configuration options false query ⟨some 1, 2⟩ ∧ ∃ sql,
      StatesIn query ⟨some 1, 2⟩ sql ∧
        (∃ before, sql = before ++ query.dialect.windowText 1 2) ∧
        ∃ text, StatesIn query ⟨some 1, 0⟩ text ∧ text ≠ sql := by
  have stated : ∃ sql, ((query.setWindow ⟨some 1, 2⟩).render .full).1 = .ok sql :=
    (Query.exists_render_eq_ok_iff _ .full).mpr (by decide +kernel)
  obtain ⟨sql, rendered⟩ := stated
  obtain ⟨states, limited, others⟩ := windows_told_apart rendered
  obtain ⟨text, other, same_iff⟩ := others ⟨some 1, 0⟩
  refine ⟨asksFor, sql, states, (limited 1 rfl).1, text, other, ?_⟩
  rw [Ne, same_iff]
  decide

/-- Without a limit an offset of five rows leaves no trace. -/
theorem offset_without_limit :
    let sql := "SELECT \"name\", \"years\" AS \"age\" FROM \"people\" " ++
      "WHERE (\"years\" >= :p_0) ORDER BY \"name\" ASC"
    ((query.setWindow ⟨none, 0⟩).render .full).1 = .ok sql ∧
      ((query.setWindow ⟨none, 5⟩).render .full).1 = .ok sql := by
  decide +kernel

end Adults

end SqlQuery.CommandLine
