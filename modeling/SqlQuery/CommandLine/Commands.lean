import SqlQuery.CommandLine.Arguments
import SqlQuery.Config.Files
import SqlQuery.Postgres.Network
import SqlQuery.Query.Execution

/-! # Commands

`render` writes the statement of a query file; `run` also sends it to the configured database. The
configuration is read before the command, and `run` connects before it reads the query file.
-/

namespace SqlQuery.CommandLine

inductive CommandError
  | usage (error : UsageError)
  | load (error : LoadError)
  | query (error : QueryError)
  | unknownCommand (name : String)
  deriving DecidableEq, Repr

/-- The options that both commands share. -/
structure QueryOptions where
  path : String
  dialect : Option DialectKind := none
  limit : Option UInt64 := none
  offset : Option UInt64 := none
  count : Bool := false
  deriving DecidableEq, Repr

namespace QueryOptions

/-- An option goes before the window in the file. -/
def window (options : QueryOptions) (file : QueryFile) : Window :=
  ⟨options.limit.orElse fun _ => file.window.limit, options.offset.getD file.window.offset⟩

def adjust (options : QueryOptions) (configuration : Configuration) : Configuration :=
  { configuration with dialect := options.dialect.getD configuration.dialect }

end QueryOptions

inductive Command
  | render (options : QueryOptions) (literal : Bool)
  | run (options : QueryOptions)
  | unknown (words : List String)
  deriving DecidableEq, Repr

structure Invocation where
  config : Option String
  format : OutputFormat
  command : Command
  deriving DecidableEq, Repr

/-- The settings after the subcommand go before those in front of it. -/
def Invocation.ofParsed (parsed : Parsed) : Invocation :=
  match parsed.choice with
  | .unknown words =>
    ⟨parsed.settings.config, parsed.settings.format.getD .table, .unknown words⟩
  | .known subcommand settings =>
    let options : QueryOptions :=
      ⟨settings.query.getD "", settings.dialect, settings.limit, settings.offset, settings.count⟩
    let command := match subcommand with
      | .render => Command.render options settings.literal
      | .run => Command.run options
    ⟨settings.config.orElse fun _ => parsed.settings.config,
      (settings.format.orElse fun _ => parsed.settings.format).getD .table, command⟩

/-- The query of a file under a configuration, without window. -/
def queryOf (configuration : Configuration) (parameterized : Bool) (file : QueryFile) : Query :=
  let query := Query.new (.named file.entity) configuration.dialect.dialect configuration.mapping
  file.apply (query.setParameterized parameterized)

/-- Renders the statement of a query file. -/
def render (files : Files) (configuration : Configuration) (options : QueryOptions)
    (literal : Bool) : Except CommandError RenderReport := do
  let configuration := options.adjust configuration
  let file ← (QueryFile.load files options.path).mapError .load
  let query := queryOf configuration (configuration.parameterized && !literal) file
  let query := query.setWindow (options.window file)
  let (sql, query) := if options.count then query.toCountSql else query.toSql
  let sql ← sql.mapError fun cause => .query (.render cause)
  return { entity := file.entity, dialect := configuration.dialect.name, count := options.count,
           sql, parameters := query.parameters }

/-- Opens a connection by its connection string for statements with a marker. -/
abbrev Connect := String → String → Except DatabaseError Connection

/-- The connection that a configuration and the environment ask for. -/
def connect (open? : Connect) (configuration : Configuration) (url : Option String) :
    Except DatabaseError Connection := do
  match ← DatabaseSettings.resolve configuration.database url with
  | .none => return .disconnected
  | .postgres settings =>
    let text ← settings.toConnectionString
    open? text configuration.dialect.dialect.marker

/-- Counts the rows of a query. The statement is rendered once for the report and once to be sent. -/
def runCount (entity : String) (active : ActiveQuery) :
    Except QueryError RunReport × ActiveQuery :=
  match active.render Query.toCountSql with
  | (.error cause, active) => (.error (.render cause), active)
  | (.ok sql, active) =>
    let (count, active) := active.count
    (count.map fun count => ⟨entity, sql, [], [], some count⟩, active)

/-- Lists the rows of a query in a window. -/
def runList (entity : String) (window : Window) (active : ActiveQuery) :
    Except QueryError RunReport × ActiveQuery :=
  match active.list window with
  | (.error cause, active) => (.error cause, active)
  | (.ok rows, active) =>
    match active.render Query.toSql with
    | (.error cause, active) => (.error (.render cause), active)
    | (.ok sql, active) =>
      let columns := (rows.head?.map Row.columns).getD []
      (.ok ⟨entity, sql, columns, rows, none⟩, active)

/-- Runs the statement of a query file; gives the report and the requests sent. -/
def run (open? : Connect) (url : Option String) (files : Files) (configuration : Configuration)
    (options : QueryOptions) : Except CommandError RunReport × List Request :=
  let configuration := options.adjust configuration
  match connect open? configuration url with
  | .error cause => (.error (.query (.database cause)), [])
  | .ok connection =>
    match QueryFile.load files options.path with
    | .error cause => (.error (.load cause), [])
    | .ok file =>
      let query := queryOf configuration configuration.parameterized file
      let active : ActiveQuery := { query, connection }
      let (report, active) :=
        if options.count then runCount file.entity active
        else runList file.entity (options.window file) active
      (report.mapError .query, active.sent)

/-- Executes a command under a configuration. -/
def Command.execute (command : Command) (open? : Connect) (url : Option String) (files : Files)
    (configuration : Configuration) (format : OutputFormat) :
    Except CommandError String × List Request :=
  match command with
  | render options literal =>
    (((CommandLine.render files configuration options literal).map (·.format format)), [])
  | run options =>
    let (report, sent) := CommandLine.run open? url files configuration options
    (report.map (·.format format), sent)
  | unknown words => (.error (.unknownCommand (words.head?.getD "")), [])

/-- Executes a parsed command line: reads the configuration, then executes the command. -/
def Invocation.execute (invocation : Invocation) (open? : Connect) (url : Option String)
    (files : Files) : Except CommandError String × List Request :=
  match Configuration.load files invocation.config with
  | .error cause => (.error (.load cause), [])
  | .ok configuration =>
    invocation.command.execute open? url files configuration invocation.format

/-- Executes a command line. -/
def executeWords (words : List String) (open? : Connect) (url : Option String) (files : Files) :
    Except CommandError String × List Request :=
  match parse words with
  | .error error => (.error (.usage error), [])
  | .ok parsed => (Invocation.ofParsed parsed).execute open? url files

def CommandError.message : CommandError → String
  | usage error => match error with
    | .displayHelp | .displayHelpOnMissing =>
      "Usage: criteria [--config FILE] [--format table|json|toon] render|run -q FILE [OPTIONS]"
    | .displayVersion => "criteria 0.1.0"
    | .unknownArgument => "error: unexpected argument"
    | .invalidValue => "error: invalid or missing value of an option"
    | .valueValidation => "error: the value of an option is out of range"
    | .argumentConflict => "error: an option is given twice"
    | .tooManyValues => "error: an option without value is given one"
    | .missingRequiredArgument => "error: the option --query is required"
    | .missingSubcommand => "error: a subcommand is required"
    | .invalidSubcommand => "error: unrecognized subcommand"
  | load error => error.message
  | query error => error.message
  | unknownCommand name => "Unknown command: " ++ name

end SqlQuery.CommandLine
