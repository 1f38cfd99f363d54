import PageBuilder.Inspector.Capabilities

/-!
# Command lines

A command line names one of four commands and then its options, each at most once: `--name value`,
`--name=value`, `-n value`, `-nvalue` or `-n=value`. A value of its own may not start with a dash,
unless it is one.
-/

namespace PageBuilder

/-- What the program is asked to do. -/
inductive Invocation where
  /-- Evaluate a formula in the scope of a file. -/
  | eval (formula : String) (scope : Option String)
  /-- Say what may be edited on a node of a component. -/
  | inspect (component : String) (tag : Option String) (mode : Inspector.Mode)
      (template : Option String)
  /-- Fire an event on a node of the project in a file, with the data of a file. -/
  | dispatch (project node event : String) (data : Option String)
  /-- Answer requests. -/
  | serve (port : Option Nat)

namespace Invocation

/-- The files that are to be read. -/
def paths : Invocation → List String
  | eval _ scope => scope.toList
  | inspect .. => []
  | dispatch project _ _ data => project :: data.toList
  | serve _ => []

/-- What the value of an option must be. -/
inductive ValueKind where
  | text
  /-- The path of a file; it is not empty. -/
  | path
  | mode
  | port
deriving DecidableEq

/-- An option. -/
structure Flag where
  long : String
  short : Option Char := none
  kind : ValueKind := .text
  required : Bool := false

/-- The value is of the kind. -/
def ValueKind.admits (kind : ValueKind) (value : String) : Bool :=
  match kind with
  | .text => true
  | .path => value ≠ ""
  | .mode => (Inspector.Mode.ofName value).toBool
  | .port => (Numeral.natural? (Nat.pow 2 16) value.toList).isSome

/-- An option on a command line, with the value that is attached to it. -/
inductive Given where
  | flag (f : Flag) (attached : Option String)
  | help
  | unknown

/-- Read one word of a command line. -/
def readWord (flags : List Flag) (word : String) : Given :=
  match word.toList with
  | '-' :: '-' :: cs =>
    let (name, attached) := match Text.cut? '=' cs with
      | some (name, value) => (String.ofList name, some (String.ofList value))
      | none => (String.ofList cs, none)
    if name = "help" ∧ attached = none then .help
    else match flags.find? fun f => f.long == name with
      | some f => .flag f attached
      | none => .unknown
  | '-' :: c :: cs =>
    match flags.find? fun f => f.short == some c with
    | some f =>
      match cs with
      | [] => .flag f none
      | '=' :: value | value => .flag f (some (String.ofList value))
    | none => if c = 'h' then .help else .unknown
  | _ => .unknown

/-- A word that may be the value of the option before it. -/
def isValue (word : String) : Bool :=
  match word.toList with
  | '-' :: _ :: _ => false
  | _ => true

/-- Why there is nothing to run. -/
inductive Refusal where
  /-- The command line is not understood. -/
  | usage
  /-- The command line is to be explained. -/
  | help
deriving DecidableEq

/-- The values that were given, if no required one is absent. -/
def complete (flags : List Flag) (given : Dict String) : Except Refusal (Dict String) :=
  if flags.all fun f => !f.required || given.contains f.long then .ok given else .error .usage

/-- The values of the options on a command line. Two dashes may end it. -/
def options (flags : List Flag) (given : Dict String) : List String → Except Refusal (Dict String)
  | [] => complete flags given
  | ["--"] => complete flags given
  | word :: words =>
    match readWord flags word with
    | .unknown => .error .usage
    | .help => .error .help
    | .flag f (some value) =>
      if given.contains f.long || !f.kind.admits value then .error .usage
      else options flags (Dict.insert f.long value given) words
    | .flag f none =>
      match words with
      | [] => .error .usage
      | value :: words =>
        if !isValue value || given.contains f.long || !f.kind.admits value then .error .usage
        else options flags (Dict.insert f.long value given) words

/-- The options of a command, and what they ask for. -/
structure Spec where
  name : String
  flags : List Flag
  build : Dict String → Invocation

/-- The value of an option that is there or has a default. -/
def valueOr (given : Dict String) (name default : String) : String := (given.get? name).getD default

/-- The commands. -/
def specs : List Spec :=
  [ { name := "eval"
      flags := [{ long := "expr", short := some 'e', required := true },
        { long := "scope", short := some 's', kind := .path }]
      build := fun given => .eval (valueOr given "expr" "") (given.get? "scope") },
    { name := "inspect"
      flags := [{ long := "component", short := some 'c', required := true },
        { long := "tag", short := some 't' },
        { long := "mode", short := some 'm', kind := .mode }, { long := "template" }]
      build := fun given =>
        let mode := match Inspector.Mode.ofName (valueOr given "mode" "standard") with
          | .ok m => m
          | .error _ => .standard
        .inspect (valueOr given "component" "") (given.get? "tag") mode (given.get? "template") },
    { name := "dispatch"
      flags := [{ long := "project", short := some 'p', kind := .path, required := true },
        { long := "node", short := some 'n', required := true },
        { long := "event", short := some 'e' },
        { long := "data", short := some 'd', kind := .path }]
      build := fun given =>
        .dispatch (valueOr given "project" "") (valueOr given "node" "")
          (valueOr given "event" "click")
          (given.get? "data") },
    { name := "serve"
      flags := [{ long := "port", short := some 'p', kind := .port }]
      build := fun given =>
        .serve ((given.get? "port").bind fun p => Numeral.natural? (Nat.pow 2 16) p.toList) }]

/-- The command with a name. -/
def spec? (name : String) : Option Spec := specs.find? fun s => s.name == name

/-- What a command line asks for. -/
def parse : List String → Except Refusal Invocation
  | [] => .error .usage
  | word :: words =>
    if ["-h", "--help", "-V", "--version"].contains word then .error .help
    else if word = "help" then
      match words with
      | [] => .error .help
      | [name] => if name = "help" ∨ (spec? name).isSome then .error .help else .error .usage
      | _ => .error .usage
    else match spec? word with
      | none => .error .usage
      | some s => (options s.flags [] words).map s.build

end Invocation
end PageBuilder
