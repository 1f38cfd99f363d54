import PageBuilder.Program.CommandLine

/-!
# The executable

Gathers the files and variables that a run reads, lets `CommandLine.run` decide, and prints what
comes of it.
-/

namespace PageBuilder

/-- The contents of a file, if it can be read. -/
def readText (path : String) : IO (Option String) := do
  try return some (← IO.FS.readFile path) catch _ => return none

/-- The environment file of the directory, or of the nearest one above it. -/
def findEnvFile : Nat → String → IO (Option String)
  | 0, _ => return none
  | levels + 1, folder => do
    match ← readText (folder ++ ".env") with
    | some text => return some text
    | none => findEnvFile levels (folder ++ "../")

/-- The variables among some names that are set. -/
def readVariables (names : List String) : IO (Dict String) :=
  names.foldlM (fun env name => do
    match ← IO.getEnv name with
    | some value => return env.insert name value
    | none => return env) []

/-- The files among some paths that can be read. -/
def contents (paths : List String) : IO (Dict String) :=
  paths.foldlM (fun files path => do
    match ← readText path with
    | some text => return files.insert path text
    | none => return files) []

/-- How the program is called. -/
def usage : String :=
  "Usage: pagebuilder <COMMAND>\n\n" ++
  "Commands:\n" ++
  "  eval      -e, --expr <EXPR> [-s, --scope <FILE>]\n" ++
  "  inspect   -c, --component <ID> [-t, --tag <TAG>] [-m, --mode <MODE>] [--template <ID>]\n" ++
  "  dispatch  -p, --project <FILE> -n, --node <ID> [-e, --event <EVENT>] [-d, --data <FILE>]\n" ++
  "  serve     [-p, --port <PORT>]\n"

/-- Print what came of a run. -/
def report : CommandLine.Outcome → IO Unit
  | .done documents => documents.forM fun d => IO.println d.text
  | .help => IO.print usage
  | .misused => IO.eprint usage
  | .failed why => IO.eprintln ("Error: " ++ why.message)
  | .serve port _ => IO.eprintln ("Error: cannot listen on 127.0.0.1:" ++ toString port)

end PageBuilder

open PageBuilder in
/-- Run the program. -/
def main (args : List String) : IO UInt32 := do
  let envFile ← findEnvFile 64 ""
  let names := CommandLine.settingNames ++ envFile.elim [] EnvFile.mentioned
  let env ← readVariables names
  let files ← contents (CommandLine.paths (envFile.elim env (EnvFile.load env)) args)
  let files := envFile.elim files fun text => files.insert ".env" text
  let outcome := CommandLine.run { files := files.get?, env := env, carry := .unreachable } args
  report outcome
  return UInt32.ofNat outcome.code
