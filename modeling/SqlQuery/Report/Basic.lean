import SqlQuery.Bindings
import SqlQuery.Database.Row
import SqlQuery.Report.Toon

/-! # Reports

What the commands print: a rendered statement with its parameters, or the result of running it; as
plain lines, as JSON or in the token-oriented notation.
-/

namespace SqlQuery

inductive OutputFormat
  | table
  | json
  | toon
  deriving DecidableEq, Repr, Inhabited

def OutputFormat.name : OutputFormat → String
  | table => "table"
  | json => "json"
  | toon => "toon"

def OutputFormat.ofName? (name : String) : Option OutputFormat :=
  [table, json, toon].find? fun format => format.name = name

def joinLines (lines : List String) : String :=
  "\n".intercalate lines

/-- The parameters of a statement, a line each. -/
def parameterLines (parameters : Parameters) : List String :=
  if parameters.isEmpty then ["Parameters: none"]
  else
    ("Parameters (" ++ toString parameters.size ++ "):") ::
      parameters.entries.map fun (name, value) =>
        "  " ++ name ++ " = " ++ value.display ++ " (" ++ value.typeName ++ ")"

/-- A rendered statement. -/
structure RenderReport where
  entity : String
  dialect : String
  count : Bool
  sql : String
  parameters : Parameters

namespace RenderReport

def toTable (report : RenderReport) : String :=
  let kind := if report.count then "count" else "select"
  joinLines
    ([report.entity ++ " " ++ kind ++ " (" ++ report.dialect ++ ")", "", report.sql, ""] ++
      parameterLines report.parameters)

def toJson (report : RenderReport) : Json :=
  .object
    [("entity", .string report.entity), ("dialect", .string report.dialect),
      ("count", .bool report.count), ("sql", .string report.sql),
      ("params", .object
        (report.parameters.entries.map fun entry => (entry.1, entry.2.toJson)))]

def toToon (report : RenderReport) : String :=
  Toon.document
    [("count", .scalar (.bool report.count)), ("dialect", .scalar (.text report.dialect)),
      ("entity", .scalar (.text report.entity)), ("params", .group report.parameters.entries),
      ("sql", .scalar (.text report.sql))]

def format (report : RenderReport) : OutputFormat → String
  | .table => report.toTable
  | .json => report.toJson.pretty
  | .toon => report.toToon

end RenderReport

/-- The result of running a statement: rows, or their number alone. -/
structure RunReport where
  entity : String
  sql : String
  columns : List String
  rows : List Row
  count : Option Int64 := none

namespace RunReport

def toTable (report : RunReport) : String :=
  match report.count with
  | some count => report.entity ++ ": " ++ toString count.toInt ++ " matching row(s)"
  | none =>
    let head := report.entity ++ ": " ++ toString report.rows.length ++ " row(s)"
    if report.rows.isEmpty then head
    else
      joinLines
        ([head, "", " | ".intercalate report.columns] ++
          report.rows.map fun row => " | ".intercalate (row.values.map Value.display))

def toJson (report : RunReport) : Json :=
  let count := match report.count with
    | some count => [("count", Json.integer count.toInt)]
    | none => []
  .object
    ([("entity", .string report.entity), ("sql", .string report.sql),
      ("columns", .array (report.columns.map .string)),
      ("rows", .array (report.rows.map Row.serialize))] ++ count)

def toToon (report : RunReport) : String :=
  let count := match report.count with
    | some count => [("count", Toon.Section.scalar (.int count))]
    | none => []
  Toon.document
    ([("columns", .items (report.columns.map .text))] ++ count ++
      [("entity", .scalar (.text report.entity)),
        ("rows", .records
          (report.rows.map fun row => (Dictionary.ofList row.entries).entries)),
        ("sql", .scalar (.text report.sql))])

def format (report : RunReport) : OutputFormat → String
  | .table => report.toTable
  | .json => report.toJson.pretty
  | .toon => report.toToon

end RunReport

end SqlQuery
