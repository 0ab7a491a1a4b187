import SqlQuery.Postgres.Connection
import SqlQuery.Postgres.ConnectionString

/-! # Servers in a network

A connection string leads to places, which are tried in order until a server there accepts the
session. The servers offer neither encryption nor channel binding, and they answer prepared
statements only: the plain query whether a session may write makes them close it.
-/

namespace SqlQuery.Postgres

/-- The server at a host and a port, if one can be reached there. -/
abbrev Network := Host → UInt16 → Option Server

/-- Why there is no connection. -/
inductive ConnectError
  | malformedString
  | unfitOptions
  | unreachable
  | noEncryption
  | notSendable
  | noChannelBinding
  | closed
  deriving DecidableEq, Repr

def ConnectError.message : ConnectError → String
  | malformedString => "invalid connection string"
  | unfitOptions => "invalid configuration"
  | unreachable => "error connecting to server"
  | noEncryption => "error performing TLS handshake"
  | notSendable => notSendableMessage
  | noChannelBinding => "authentication error"
  | closed => "connection closed"

namespace ConnectionOptions

variable (options : ConnectionOptions)

/-- The places that options lead to. An address stands for the host at its position, so as many are
needed; one port serves all places. -/
def places? : Option (List (Host × UInt16)) :=
  let hosts := if options.addresses.isEmpty then options.hosts else options.addresses.map .name
  let areParallel := options.hosts.isEmpty || options.hosts.length = hosts.length
  if hosts.isEmpty || !areParallel then none
  else
    match options.ports with
    | [] => some (hosts.map (·, PostgresSettings.defaultPort))
    | [port] => some (hosts.map (·, port))
    | ports => if ports.length = hosts.length then some (hosts.zip ports) else none

/-- The texts with which a session starts. -/
def startTexts : List String :=
  [options.user, options.database, options.serverOptions, options.applicationName].filterMap id

/-- Opens a session at a place: encryption comes first, then the texts are sent, then the server
accepts the user, and last the session is asked whether it may write. -/
def openAt (network : Network) (place : Host × UInt16) : Except ConnectError Server :=
  match network place.1 place.2 with
  | none => .error .unreachable
  | some server =>
    if options.requiresEncryption then .error .noEncryption
    else if options.startTexts.any Text.hasZero then .error .notSendable
    else if options.requiresChannelBinding then .error .noChannelBinding
    else if options.selectsByWriting then .error .closed
    else .ok server

/-- The first server that opens a session, or why the last one does not. -/
def openFirst (network : Network) : ConnectError → List (Host × UInt16) → Except ConnectError Server
  | cause, [] => .error cause
  | _, place :: rest =>
    match options.openAt network place with
    | .ok server => .ok server
    | .error cause => openFirst network cause rest

end ConnectionOptions

/-- The server that a connection string leads to. -/
def Network.server (network : Network) (text : String) : Except ConnectError Server :=
  match ConnectionOptions.ofString? text with
  | none => .error .malformedString
  | some options =>
    match options.places? with
    | none => .error .unfitOptions
    | some places => options.openFirst network .unreachable places

/-- Connects by a connection string, for statements with a marker. -/
def connect (network : Network) (text marker : String) : Except DatabaseError Connection :=
  match network.server text with
  | .ok server => .ok (connection server marker)
  | .error cause => .error (.connectFailed backendName cause.message)

end SqlQuery.Postgres
