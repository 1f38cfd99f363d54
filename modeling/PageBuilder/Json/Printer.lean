import PageBuilder.Json.Basic
import PageBuilder.Number.Shortest

/-!
# Writing JSON

Values are written without blanks (`render`), or with one item or entry in a line (`pretty`). In a
string the quote, the backslash and the control characters are escaped, and nothing else is.
-/

namespace PageBuilder
namespace Json

/-- A hexadecimal digit. -/
def hexDigit (n : Nat) : Char :=
  if n < 10 then Char.ofNat ('0'.toNat + n) else Char.ofNat ('a'.toNat + (n - 10))

/-- A character as it stands in a string. -/
def escape (c : Char) : List Char :=
  if c = '"' then ['\\', '"']
  else if c = '\\' then ['\\', '\\']
  else if c = '\x08' then ['\\', 'b']
  else if c = '\x0c' then ['\\', 'f']
  else if c = '\n' then ['\\', 'n']
  else if c = '\r' then ['\\', 'r']
  else if c = '\t' then ['\\', 't']
  else if c.toNat < 0x20 then
    ['\\', 'u', '0', '0', hexDigit (c.toNat / 16), hexDigit (c.toNat % 16)]
  else [c]

/-- A string in quotes. -/
def quote (s : String) : String := String.ofList ('"' :: s.toList.flatMap escape ++ ['"'])

/-- A number. -/
def renderNumber : Number → String
  | .int n => toString n
  | .float x => Layout.json.render x

mutual

/-- The text of a value. -/
def render : Json → String
  | .null => "null"
  | .bool b => if b then "true" else "false"
  | .number n => renderNumber n
  | .string s => quote s
  | .array xs => "[" ++ renderItems xs ++ "]"
  | .object d => "\x7b" ++ renderFields d ++ "\x7d"

/-- Items with commas between them. -/
def renderItems : List Json → String
  | [] => ""
  | [x] => render x
  | x :: y :: xs => render x ++ "," ++ renderItems (y :: xs)

/-- Entries with commas between them. -/
def renderFields : List (String × Json) → String
  | [] => ""
  | [(k, v)] => quote k ++ ":" ++ render v
  | (k, v) :: e :: d => quote k ++ ":" ++ render v ++ "," ++ renderFields (e :: d)

end

/-- The start of a line inside `depth` containers. -/
def indent (depth : Nat) : String := "\n" ++ String.ofList (List.replicate (2 * depth) ' ')

mutual

/-- The text of a value inside `depth` containers, one item or entry in a line. -/
def pretty (depth : Nat) : Json → String
  | .array (x :: xs) => "[" ++ prettyItems (depth + 1) (x :: xs) ++ indent depth ++ "]"
  | .object (e :: d) => "\x7b" ++ prettyFields (depth + 1) (e :: d) ++ indent depth ++ "\x7d"
  | v => render v

/-- Items, each in a line of its own. -/
def prettyItems (depth : Nat) : List Json → String
  | [] => ""
  | [x] => indent depth ++ pretty depth x
  | x :: y :: xs => indent depth ++ pretty depth x ++ "," ++ prettyItems depth (y :: xs)

/-- Entries, each in a line of its own. -/
def prettyFields (depth : Nat) : List (String × Json) → String
  | [] => ""
  | [(k, v)] => indent depth ++ quote k ++ ": " ++ pretty depth v
  | (k, v) :: e :: d =>
    indent depth ++ quote k ++ ": " ++ pretty depth v ++ "," ++ prettyFields depth (e :: d)

end

end Json
end PageBuilder
