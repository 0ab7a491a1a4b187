import SqlQuery.Error
import SqlQuery.Json.Record
import SqlQuery.Expression.Json

/-! # Database settings

Which database a query runs on: none, or a PostgreSQL server given by a connection string or by its
parts. Settings in a file go before the address in the environment.
-/

namespace SqlQuery

structure PostgresSettings where
  connectionString : Option String := none
  host : Option String := none
  user : Option String := none
  database : Option String := none
  port : UInt16 := 0
  password : Option String := none
  ssl : Bool := false
  deriving DecidableEq, Repr

namespace PostgresSettings

def defaultPort : UInt16 := 5432

/-- How the address of a server starts. -/
def schemes : List String := ["postgres://", "postgresql://"]

/-- The connection string, or the parts as `key=value` pairs. -/
def toConnectionString (settings : PostgresSettings) : Except DatabaseError String :=
  match settings.connectionString with
  | some text => .ok text
  | none =>
    match settings.host, settings.user, settings.database with
    | none, _, _ =>
      .error (.invalidConfig "postgres config requires 'host' or 'connection_string'")
    | _, none, _ => .error (.invalidConfig "postgres config requires 'user'")
    | _, _, none => .error (.invalidConfig "postgres config requires 'database'")
    | some host, some user, some database =>
      let port := if settings.port = 0 then defaultPort else settings.port
      let password := match settings.password with
        | some password => " password=" ++ password
        | none => ""
      let ssl := if settings.ssl then " sslmode=require" else ""
      .ok ("host=" ++ host ++ " port=" ++ toString port.toNat ++ " user=" ++ user ++ " dbname=" ++
        database ++ password ++ ssl)

def toJson (settings : PostgresSettings) : Json :=
  .object
    [("connection_string", .ofOption .string settings.connectionString),
      ("host", .ofOption .string settings.host),
      ("user", .ofOption .string settings.user),
      ("database", .ofOption .string settings.database),
      ("port", .integer settings.port.toNat),
      ("password", .ofOption .string settings.password),
      ("ssl", .bool settings.ssl)]

def ofJson? (json : Json) : Option PostgresSettings := do
  let fields ← json.record?
  let text (index : Nat) (name : String) :=
    fields.optional index name none (Json.nullable Json.string?)
  let connectionString ← text 0 "connection_string"
  let host ← text 1 "host"
  let user ← text 2 "user"
  let database ← text 3 "database"
  let port ← fields.optional 4 "port" 0 Json.uint16?
  let password ← text 5 "password"
  let ssl ← fields.optional 6 "ssl" false Json.bool?
  if fields.fits 7 then
    return { connectionString, host, user, database, port, password, ssl }
  else failure

end PostgresSettings

inductive DatabaseSettings
  | none
  | postgres (settings : PostgresSettings)
  deriving DecidableEq, Repr

namespace DatabaseSettings

/-- The database at an address. -/
def ofUrl (url : String) : Except DatabaseError DatabaseSettings :=
  if url = "" || url = "none" then .ok none
  else if PostgresSettings.schemes.any fun scheme => scheme.toList.isPrefixOf url.toList then
    .ok (postgres { connectionString := some url })
  else .error (.invalidConfig ("unsupported database url: " ++ url))

/-- The database at the address in the environment, if there is one. -/
def ofEnvironment (url : Option String) : Except DatabaseError (Option DatabaseSettings) :=
  match url with
  | some url => (ofUrl url).map some
  | .none => .ok .none

/-- The settings in a file, else those in the environment, else none. -/
def resolve (file : Option PostgresSettings) (url : Option String) :
    Except DatabaseError DatabaseSettings :=
  match file with
  | some settings => .ok (postgres settings)
  | .none => (ofEnvironment url).map (·.getD none)

end DatabaseSettings

end SqlQuery
