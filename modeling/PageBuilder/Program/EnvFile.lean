import PageBuilder.Dict
import PageBuilder.Text.Alphanumeric
import PageBuilder.Text.Blank
import PageBuilder.Text.Split

/-!
# Environment files

An environment file sets variables that are not set yet, one in a line: `NAME=value`, perhaps after
the word `export`. Values may be quoted; `$NAME` and `${NAME}` stand for variables, except in single
quotes; a blank ends a value without quotes, and after it only a comment may follow. The first line
that is malformed ends the file.
-/

namespace PageBuilder
namespace EnvFile

/-- Where in a value the reader is. The flag tells whether it is between double quotes. -/
inductive Place where
  | text (quoted : Bool)
  /-- Between single quotes. -/
  | literal
  /-- After a backslash. -/
  | escaped (quoted : Bool)
  /-- In the name of a variable after a dollar sign; the last character comes first. -/
  | name (quoted : Bool) (name : List Char)
  /-- In the name of a variable in braces. -/
  | braced (quoted : Bool) (name : List Char)
  /-- After the end of the value. -/
  | ended

/-- The value of a variable; one that is not set is empty. -/
def valueOf (env : Dict String) (name : List Char) : List Char :=
  ((env.get? (String.ofList name.reverse)).getD "").toList

/-- A blank inside a line. -/
def isGap (c : Char) : Bool := c == ' ' || c == '\t'

/-- The rest of a value from a place on. -/
def valueFrom? (env : Dict String) : Place → List Char → Option (List Char)
  | .text quoted, [] => if quoted then none else some []
  | .literal, [] => none
  | .escaped quoted, [] => if quoted then none else some []
  | .name quoted name, [] => if quoted then none else some (valueOf env name)
  | .braced _ _, [] => none
  | .ended, [] => some []
  | .ended, c :: cs =>
    if isGap c then valueFrom? env .ended cs else if c = '#' then some [] else none
  | .escaped quoted, c :: cs =>
    if c = '\\' ∨ c = '\x27' ∨ c = '"' ∨ c = '$' ∨ c = ' ' then
      (valueFrom? env (.text quoted) cs).map (c :: ·)
    else if c = 'n' then (valueFrom? env (.text quoted) cs).map ('\n' :: ·)
    else none
  | .literal, c :: cs =>
    if c = '\x27' then valueFrom? env (.text false) cs
    else (valueFrom? env .literal cs).map (c :: ·)
  | .name quoted name, c :: cs =>
    if Text.isAlphanumeric c then valueFrom? env (.name quoted (c :: name)) cs
    else if c = '\x7b' ∧ name = [] then valueFrom? env (.braced quoted []) cs
    else if c = '$' then (valueFrom? env (.name quoted []) cs).map (valueOf env name ++ ·)
    else (valueFrom? env (.text quoted) cs).map (valueOf env name ++ c :: ·)
  | .braced quoted name, c :: cs =>
    if c = '\x7d' then (valueFrom? env (.text quoted) cs).map (valueOf env name ++ ·)
    else valueFrom? env (.braced quoted (c :: name)) cs
  | .text quoted, c :: cs =>
    if c = '$' then valueFrom? env (.name quoted []) cs
    else if c = '\\' then valueFrom? env (.escaped quoted) cs
    else if c = '"' then valueFrom? env (.text !quoted) cs
    else if quoted then (valueFrom? env (.text true) cs).map (c :: ·)
    else if c = '\x27' then valueFrom? env .literal cs
    else if isGap c then valueFrom? env .ended cs
    else (valueFrom? env (.text false) cs).map (c :: ·)

/-- A character of a name after its first one. -/
def isNameChar (c : Char) : Bool := c.isAlphanum || c == '_' || c == '.'

/-- The name at the head of a line, and what follows it and its blanks. -/
def name? (cs : List Char) : Option (List Char × List Char) :=
  match cs with
  | [] => none
  | c :: _ =>
    if c.isAlpha || c == '_' then
      some (cs.takeWhile isNameChar, (cs.dropWhile isNameChar).dropWhile Text.isBlank)
    else none

/-- What follows the equals sign and its blanks. -/
def afterEquals? : List Char → Option (List Char)
  | '=' :: cs => some (cs.dropWhile Text.isBlank)
  | _ => none

/-- The name of a line and the text after its equals sign. The word `export` counts as a name if
nothing else is one. -/
def assignment? (cs : List Char) : Option (List Char × List Char) := do
  let (name, rest) ← name? cs
  match afterEquals? rest with
  | some value => some (name, value)
  | none =>
    if name = "export".toList then
      let (name, rest) ← name? rest
      let value ← afterEquals? rest
      some (name, value)
    else none

/-- Whether a line says nothing from here on. -/
def isSilent : List Char → Bool
  | [] => true
  | c :: _ => c == '#'

/-- The environment after a line, unless the line is malformed. A variable that is set keeps its
value. -/
def line? (env : Dict String) (line : List Char) : Option (Dict String) :=
  let text := Text.trim line
  if isSilent text then some env
  else do
    let (name, rest) ← assignment? text
    let value ← if isSilent rest then some [] else valueFrom? env (.text false) rest
    let key := String.ofList name
    some (if env.contains key then env else env.insert key (String.ofList value))

/-- The environment after some lines, up to the first malformed one. -/
def lines (env : Dict String) : List (List Char) → Dict String
  | [] => env
  | l :: ls =>
    match line? env l with
    | some env => lines env ls
    | none => env

/-- The environment after a file. -/
def load (env : Dict String) (text : String) : Dict String :=
  lines env (Text.split '\n' text.toList)

/-- The names of the variables that a file may set or use. -/
def mentioned (text : String) : List String :=
  let pieces := (Text.split '$' text.toList).flatMap fun p =>
    [p.takeWhile Text.isAlphanumeric, (p.drop 1).takeWhile fun c => c != '\x7d']
  let keys := (Text.split '\n' text.toList).filterMap fun l =>
    (assignment? (Text.trim l)).map Prod.fst
  (pieces ++ keys).map String.ofList

end EnvFile
end PageBuilder
