import PageBuilder.Design.Project
import PageBuilder.Failure
import PageBuilder.Json.Reader
import PageBuilder.Policy.Builtin

/-!
# Files

Registries, projects and values are kept in files. A file whose name ends in `.json` holds JSON; any
other holds YAML, of which the JSON documents are read. What is wrong with a text is reported as a
failure of its format.
-/

namespace PageBuilder

/-- The contents of files by their paths. -/
abbrev Files := String → Option String

namespace Path

/-- The names along a path. -/
def parts (path : String) : List (List Char) :=
  (Text.split '/' path.toList).filter fun p => p ≠ [] ∧ p ≠ ['.']

/-- The part of a file's name after its last dot. A dot at the very front does not count. -/
def extension? (path : String) : Option String :=
  match (parts path).getLast? with
  | none => none
  | some name =>
    let tail := name.reverse.takeWhile fun c => c != '.'
    let stem := (name.reverse.drop (tail.length + 1)).reverse
    if name = ['.', '.'] ∨ stem = [] then none else some (String.ofList tail.reverse)

end Path

/-- The files of one directory; a path that starts at the root leads out of it. -/
def Files.ofDirectory (d : Dict String) : Files := fun path =>
  if path.toList.head? = some '/' then none
  else (d.find? fun e => Path.parts e.1 == Path.parts path).map Prod.snd

/-- The formats of files. -/
inductive Format where
  | json
  | yaml
deriving DecidableEq

namespace Format

/-- The format of a file. -/
def ofPath (path : String) : Format := if Path.extension? path = some "json" then .json else .yaml

/-- The failure of a text in a format. -/
def failure : Format → Failure
  | .json => .json
  | .yaml => .yaml

/-- The value of a type that a text holds. YAML that is no JSON document is refused. -/
def read {α : Type} [Codec α] (f : Format) (text : String) : Except Failure α :=
  match Json.ofTextAs (shapeOf α) text with
  | .error _ => .error f.failure
  | .ok v => (decode v).mapError fun _ => f.failure

end Format

/-- The contents of a file. -/
def Files.read (files : Files) (path : String) : Except Failure String :=
  match files path with
  | some text => .ok text
  | none => .error (.file path)

namespace Policy
namespace Registry

/-- The registry that a text holds. All it refers to is declared in it. -/
def ofText (f : Format) (text : String) : Except Failure Registry := do
  let r : Registry ← f.read text
  (r.checkReferences).mapError Failure.policy
  return r

/-- The registry of a file, or the builtin one. -/
def load (files : Files) : Option String → Except Failure Registry
  | none => .ok builtin
  | some path => do ofText (.ofPath path) (← files.read path)

end Registry
end Policy
end PageBuilder
