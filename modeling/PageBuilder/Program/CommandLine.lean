import PageBuilder.Program.Api
import PageBuilder.Program.EnvFile
import PageBuilder.Program.Invocation
import PageBuilder.Program.Settings

/-!
# The command line program

A run of the program: the environment file is read, then the command line, the settings and the
policies, and then the command is carried out. The exit code is 0 for success, 1 for a failure and 2
for a command line that is not understood.
-/

namespace PageBuilder
namespace CommandLine

open Inspector Policy

/-- A document that is printed: in one line, or spread over several. -/
inductive Document where
  | line (v : Json)
  | page (v : Json)

/-- The value of a document. -/
def Document.value : Document → Json
  | line v => v
  | page v => v

/-- The text of a document. -/
def Document.text : Document → String
  | line v => v.render
  | page v => Json.pretty 0 v

/-- What a run comes to. -/
inductive Outcome where
  | done (documents : List Document)
  | failed (why : Failure)
  /-- The command line is not understood. -/
  | misused
  /-- The command line is to be explained. -/
  | help
  /-- Requests are to be answered at a port. -/
  | serve (port : Nat) (registry : Registry)

/-- What a run has to do with. -/
structure World where
  files : Files
  env : Dict String := []
  carry : Web.Transport

/-- The environment of a run: the variables, and those that the environment file adds. -/
def World.environment (w : World) : Dict String :=
  match w.files ".env" with
  | some text => EnvFile.load w.env text
  | none => w.env

/-- The JSON in a file. -/
def readJson (files : Files) (path : String) : Except Failure Json := do
  Format.json.read (← files.read path)

/-- Evaluate a formula: its truth, where one that cannot be read is false. -/
def runEval (w : World) (formula : String) (scope : Option String) :
    Except Failure (List Document) := do
  let s ← match scope with
    | some path => (readJson w.files path).map Scope.ofJson
    | none => .ok {}
  return [.line (.bool (Formula.holds formula s))]

/-- Say what may be edited on a node of a component. -/
def runInspect (r : Registry) (component : String) (tag : Option String) (m : Mode)
    (template : Option String) :
    List Document :=
  let n : Node :=
    { id := "inspect"
      component := component
      props := (tag.map fun t => (Node.tagProp, Json.string t)).toList
      template := template }
  [.page (Api.capabilities r n m Json.empty none)]

/-- Fire an event on a node: its effects, and then what became of the design. -/
def runDispatch (w : World) (projectPath node event : String) (dataPath : Option String) :
    Except Failure (List Document) := do
  let text ← w.files.read projectPath
  let p : Project ← (Format.ofPath projectPath).read text
  let data ← match dataPath with
    | some path => readJson w.files path
    | none => .ok Json.empty
  let (report, host) := Api.dispatch w.carry p data node event
  let s := host.store.current
  let summary : Json := .object <|
    Json.field "data" s.data ++ Json.field "report" report.toJson ++
      Json.field "revision" (Json.ofNat s.revision) ++ Json.field "ui" s.ui
  return host.notices.map (fun n => .line (encode n)) ++ [.page summary]

/-- Carry out a command. -/
def runInvocation (w : World) (settings : Settings) (r : Registry) :
    Invocation → Except Failure Outcome
  | .eval formula scope => (runEval w formula scope).map .done
  | .inspect component tag m template => .ok (.done (runInspect r component tag m template))
  | .dispatch project node event data => (runDispatch w project node event data).map .done
  | .serve port => .ok (.serve (port.getD settings.port) r)

/-- Run the program. -/
def run (w : World) (args : List String) : Outcome :=
  let env := w.environment
  match Invocation.parse args with
  | .error .usage => .misused
  | .error .help => .help
  | .ok invocation =>
    let result : Except Failure Outcome := do
      let settings ← Settings.ofEnvironment env
      let r ← Registry.load w.files settings.policyPath
      runInvocation w settings r invocation
    match result with
    | .ok outcome => outcome
    | .error why => .failed why

/-- The exit code of an outcome; answering requests fails where there is no network. -/
def Outcome.code : Outcome → Nat
  | done _ => 0
  | help => 0
  | failed _ => 1
  | serve .. => 1
  | misused => 2

/-- The variables that the settings are read from. -/
def settingNames : List String :=
  ["STAGECRAFT_POLICY", "STAGECRAFT_PORT", "STAGECRAFT_HTTP_TIMEOUT_SECS"]

/-- The files that a run reads, given the environment. -/
def paths (env : Dict String) (args : List String) : List String :=
  (env.get? "STAGECRAFT_POLICY").toList ++
    match Invocation.parse args with
    | .ok invocation => invocation.paths
    | .error _ => []

/-- The documents that are printed. -/
def Outcome.documents : Outcome → List Document
  | done ds => ds
  | _ => []

end CommandLine
end PageBuilder
