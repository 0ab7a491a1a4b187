import SqlQuery.Dialect.Basic
import SqlQuery.Report.Basic

/-! # Command-line arguments

Arguments are read from the left, first those before the subcommand, then those after it. The value
of an option may follow as the next word; such a value is checked only when something else settles
it, so a later unknown argument is reported before an earlier bad value.
-/

namespace SqlQuery.CommandLine

inductive UsageError
  | unknownArgument
  | invalidValue
  | valueValidation
  | argumentConflict
  | tooManyValues
  | missingRequiredArgument
  | missingSubcommand
  | invalidSubcommand
  | displayHelp
  | displayHelpOnMissing
  | displayVersion
  deriving DecidableEq, Repr

inductive OptionName
  | config
  | format
  | query
  | dialect
  | limit
  | offset
  | count
  | literal
  | help
  | version
  deriving DecidableEq, Repr

namespace OptionName

def long : OptionName → String
  | config => "config"
  | format => "format"
  | query => "query"
  | dialect => "dialect"
  | limit => "limit"
  | offset => "offset"
  | count => "count"
  | literal => "literal"
  | help => "help"
  | version => "version"

def short? : OptionName → Option Char
  | config => none
  | format => some 'f'
  | query => some 'q'
  | dialect => some 'd'
  | limit => some 'l'
  | offset => some 'o'
  | count => some 'c'
  | literal => none
  | help => some 'h'
  | version => some 'V'

def takesValue : OptionName → Bool
  | config | format | query | dialect | limit | offset => true
  | count | literal | help | version => false

end OptionName

/-- The values of the options given so far. -/
structure Settings where
  config : Option String := none
  format : Option OutputFormat := none
  query : Option String := none
  dialect : Option DialectKind := none
  limit : Option UInt64 := none
  offset : Option UInt64 := none
  count : Bool := false
  literal : Bool := false
  deriving DecidableEq, Repr

/-- A number in decimal digits, possibly after a plus sign, of at most 64 bits. -/
def number? (text : String) : Option UInt64 :=
  (Numeral.unsigned? UInt64.size text).map UInt64.ofNat

namespace Settings

def isGiven (settings : Settings) : OptionName → Bool
  | .config => settings.config.isSome
  | .format => settings.format.isSome
  | .query => settings.query.isSome
  | .dialect => settings.dialect.isSome
  | .limit => settings.limit.isSome
  | .offset => settings.offset.isSome
  | .count => settings.count
  | .literal => settings.literal
  | .help | .version => false

def isEmpty (settings : Settings) : Bool :=
  settings = {}

/-- A path must not be empty. -/
def path (text : String) : Except UsageError String :=
  if text.isEmpty then .error .invalidValue else .ok text

def orElse {α : Type} (value : Option α) (error : UsageError) : Except UsageError α :=
  match value with
  | some value => .ok value
  | none => .error error

/-- Sets an option from its value. -/
def setValue (settings : Settings) (option : OptionName) (text : String) :
    Except UsageError Settings :=
  match option with
  | .config => do
    let config ← path text
    return { settings with config := some config }
  | .query => do
    let query ← path text
    return { settings with query := some query }
  | .format => do
    let format ← orElse (OutputFormat.ofName? text) .invalidValue
    return { settings with format := some format }
  | .dialect => do
    let dialect ← orElse (DialectKind.ofName? text) .invalidValue
    return { settings with dialect := some dialect }
  | .limit => do
    let limit ← orElse (number? text) .valueValidation
    if limit = 0 then throw .valueValidation
    return { settings with limit := some limit }
  | .offset => do
    let offset ← orElse (number? text) .valueValidation
    return { settings with offset := some offset }
  | .count | .literal | .help | .version => .ok settings

/-- Sets an option without value. -/
def setFlag (settings : Settings) : OptionName → Except UsageError Settings
  | .count => .ok { settings with count := true }
  | .literal => .ok { settings with literal := true }
  | .help => .error .displayHelp
  | .version => .error .displayVersion
  | .config | .format | .query | .dialect | .limit | .offset => .ok settings

end Settings

/-- What has been read before or after the subcommand. `pending` is an option whose value came as a
word of its own, or is still to come; `awaits` tells that the next word is that value. After two
dashes every word is positional. -/
structure Reading where
  settings : Settings := {}
  pending : Option (OptionName × Option String) := none
  awaits : Bool := false
  positional : Bool := false
  deriving DecidableEq, Repr

namespace Reading

/-- Gives an option its value; an option is given once. -/
def give (reading : Reading) (option : OptionName) (value : Option String) :
    Except UsageError Reading :=
  match value with
  | none => .error .invalidValue
  | some text =>
    if reading.settings.isGiven option then .error .argumentConflict
    else do
      let settings ← reading.settings.setValue option text
      return { reading with settings }

/-- Settles the pending option. -/
def settle (reading : Reading) : Except UsageError Reading :=
  match reading.pending with
  | none => .ok reading
  | some (option, value) => { reading with pending := none, awaits := false }.give option value

/-- An option with its value attached. -/
def attach (reading : Reading) (option : OptionName) (text : String) :
    Except UsageError Reading := do
  let reading ← reading.settle
  let reading ← reading.give option (some text)
  return { reading with awaits := false }

/-- An option whose value is the next word. -/
def await (reading : Reading) (option : OptionName) : Except UsageError Reading := do
  let reading ← reading.settle
  return { reading with pending := some (option, none), awaits := true }

def flag (reading : Reading) (option : OptionName) : Except UsageError Reading := do
  let reading ← reading.settle
  if reading.settings.isGiven option then throw .argumentConflict
  let settings ← reading.settings.setFlag option
  return { reading with settings, awaits := false }

/-- A word of single-letter options; the first that takes a value takes the rest of the word. -/
def readShort (options : List OptionName) (reading : Reading) :
    List Char → Except UsageError Reading
  | [] => .ok reading
  | letter :: rest =>
    match options.find? fun option => option.short? = some letter with
    | none => .error .unknownArgument
    | some option =>
      if option.takesValue then
        match rest with
        | [] => reading.await option
        | '=' :: value => reading.attach option (String.ofList value)
        | value => reading.attach option (String.ofList value)
      else do
        let reading ← reading.flag option
        readShort options reading rest

/-- A long option, possibly with a value after an equals sign. -/
def readLong (options : List OptionName) (reading : Reading) (body : List Char) :
    Except UsageError Reading :=
  let name := body.takeWhile fun c => c ≠ '='
  let value := body.dropWhile fun c => c ≠ '='
  match options.find? fun option => option.long.toList = name with
  | none => .error .unknownArgument
  | some option =>
    match option.takesValue, value with
    | true, [] => reading.await option
    | true, _ :: text => reading.attach option (String.ofList text)
    | false, [] => reading.flag option
    | false, _ :: _ => .error .tooManyValues

/-- Reads a word that is an option, two dashes or an awaited value; none if it is positional. -/
def readWord? (options : List OptionName) (reading : Reading) (word : String) :
    Option (Except UsageError Reading) :=
  if reading.positional then none
  else
    match word.toList with
    | ['-', '-'] => some (.ok { reading with positional := true })
    | '-' :: '-' :: body => some (reading.readLong options body)
    | '-' :: letter :: rest => some (reading.readShort options (letter :: rest))
    | _ =>
      if reading.awaits then
        let pending := reading.pending.map fun (option, _) => (option, some word)
        some (.ok { reading with pending, awaits := false })
      else none

end Reading

/-! ## Subcommands -/

inductive Subcommand
  | render
  | run
  deriving DecidableEq, Repr

namespace Subcommand

def ofName? : String → Option Subcommand
  | "render" => some render
  | "run" => some run
  | _ => none

/-- The options that a subcommand knows. -/
def options : Subcommand → List OptionName
  | render => [.config, .format, .query, .dialect, .limit, .offset, .count, .literal, .help]
  | run => [.config, .format, .query, .dialect, .limit, .offset, .count, .help]

end Subcommand

/-- The options before the subcommand. -/
def commonOptions : List OptionName := [.config, .format, .help, .version]

/-- The arguments after a subcommand; it takes no positional ones. -/
def readOptions (subcommand : Subcommand) (reading : Reading) :
    List String → Except UsageError Settings
  | [] => do
    let reading ← reading.settle
    if reading.settings.query.isNone then throw .missingRequiredArgument
    return reading.settings
  | word :: rest =>
    match reading.readWord? subcommand.options word with
    | none => .error .unknownArgument
    | some (.error error) => .error error
    | some (.ok reading) => readOptions subcommand reading rest

/-- What the words after `help` ask for. -/
def helpFor : List String → UsageError
  | [] => .displayHelp
  | [topic] => if topic ∈ ["render", "run", "help"] then .displayHelp else .invalidSubcommand
  | _ => .invalidSubcommand

inductive Choice
  | known (subcommand : Subcommand) (settings : Settings)
  | unknown (words : List String)
  deriving DecidableEq, Repr

/-- A command line: the settings before the command, and the command. -/
structure Parsed where
  settings : Settings
  choice : Choice
  deriving DecidableEq, Repr

/-- The whole command line. A word that names no subcommand starts an unknown command, which takes
everything after it. -/
def readArguments (reading : Reading) : List String → Except UsageError Parsed
  | [] => do
    let reading ← reading.settle
    throw (if reading.settings.isEmpty then .displayHelpOnMissing else .missingSubcommand)
  | word :: rest => do
    let subcommand := if reading.positional || reading.awaits then none else Subcommand.ofName? word
    match subcommand with
    | some subcommand =>
      let settings ← readOptions subcommand {} rest
      let reading ← reading.settle
      return ⟨reading.settings, .known subcommand settings⟩
    | none =>
      if word = "help" && !reading.positional && !reading.awaits then throw (helpFor rest)
      match reading.readWord? commonOptions word with
      | none =>
        let reading ← reading.settle
        return ⟨reading.settings, .unknown (word :: rest)⟩
      | some (.error error) => .error error
      | some (.ok reading) => readArguments reading rest

def parse (words : List String) : Except UsageError Parsed :=
  readArguments {} words

end SqlQuery.CommandLine
