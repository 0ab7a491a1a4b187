import SqlQuery.CommandLine.Commands

/-! # The command line

Reads the files that a command line names, executes it and prints the result. A command line that
cannot be read exits with status two, any other failure with status one.
-/

namespace SqlQuery.CommandLine

/-- The code of the failure to read a directory. -/
def directoryCode : UInt32 := 21

/-- What a path leads to on this machine. The only argument of reading is the path, and a path that
can be handed over is invalid when it is too long. -/
def readPath (path : String) : IO (Except FileError ByteArray) := do
  if Text.hasZero path then return .error .zeroInName
  try
    return .ok (← IO.FS.readBinFile path)
  catch
    | .inappropriateType _ code _ =>
      return .error (if code = directoryCode then .isDirectory else .notDirectory)
    | .invalidArgument .. => return .error .nameTooLong
    | _ => return .error .notFound

/-- No server can be reached from here. -/
def noNetwork : Postgres.Network := fun _ _ => none

end SqlQuery.CommandLine

open SqlQuery SqlQuery.CommandLine in
def main (words : List String) : IO UInt32 := do
  match parse words with
  | .error error =>
    match error with
    | .displayHelp | .displayVersion =>
      IO.println (CommandError.usage error).message
      return 0
    | _ =>
      IO.eprintln (CommandError.usage error).message
      return 2
  | .ok parsed =>
    let invocation := Invocation.ofParsed parsed
    let configPath := invocation.config.getD Configuration.defaultPath
    let queryPath := match invocation.command with
      | .render options _ => options.path
      | .run options => options.path
      | .unknown _ => ""
    let config ← readPath configPath
    let query ← if queryPath.isEmpty then pure (.error .notFound) else readPath queryPath
    let files : Files := fun path => if path = configPath then config else query
    let url ← IO.getEnv "DATABASE_URL"
    match (invocation.execute (Postgres.connect noNetwork) url files).1 with
    | .ok output =>
      IO.println output
      return 0
    | .error error =>
      IO.eprintln ("Error: " ++ error.message)
      return 1
