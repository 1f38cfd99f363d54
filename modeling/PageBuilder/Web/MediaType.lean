import PageBuilder.Text.Split
import PageBuilder.Web.Token

/-!
# Media types

A media type names a type and a subtype with a slash between them; the subtype may end in a plus
sign and the format that it is built on. Parameters follow semicolons, each a name, an equals sign
and a word or a text in quotes.
-/

namespace PageBuilder
namespace Web

/-- A media type without its parameters, in lower case. -/
structure MediaType where
  type : List Char
  subtype : List Char
  /-- The format after the last plus sign. -/
  suffix : Option (List Char) := none
deriving DecidableEq

namespace MediaType

/-- Where in the parameters the reader is. -/
inductive Place where
  /-- Before a name. -/
  | gap
  | name
  /-- After the equals sign. -/
  | value
  | word
  /-- After the opening quote; a second quote here is a character of the text. -/
  | opened
  | quoted
  | closed

/-- A character of a text in quotes. -/
def isQuotedChar (c : Char) : Bool := 0x20 ≤ c.toNat && c.toNat < 0x7F

/-- Take a character of the parameters. -/
def step? : Place → Char → Option Place
  | .gap, c => if c = ' ' then some .gap else if isTokenChar c then some .name else none
  | .name, c => if c = '=' then some .value else if isTokenChar c then some .name else none
  | .value, c => if c = '"' then some .opened else if isTokenChar c then some .word else none
  | .word, c => if c = ';' then some .gap else if isTokenChar c then some .word else none
  | .opened, c => if isQuotedChar c then some .quoted else none
  | .quoted, c => if c = '"' then some .closed else if isQuotedChar c then some .quoted else none
  | .closed, c => if c = ';' then some .gap else if c = ' ' then some .closed else none

/-- The parameters may end here. -/
def Place.isEnd : Place → Bool
  | gap | value | word | closed => true
  | name | opened | quoted => false

/-- What follows the first semicolon is a list of parameters. -/
def areParameters (cs : List Char) : Bool := (cs.foldlM step? .gap).any Place.isEnd

/-- Cut the suffix off a subtype, at the last plus sign that is not its first character. -/
def cutSuffix (cs : List Char) : List Char × Option (List Char) :=
  match Text.cut? '+' cs.reverse with
  | some (suffix, front) => if front = [] then (cs, none) else (front.reverse, some suffix.reverse)
  | none => (cs, none)

/-- The media type that two names spell. -/
def ofNames? (type subtype : List Char) : Option MediaType :=
  if type ≠ [] ∧ (type ++ subtype).all isTokenChar then
    let (subtype, suffix) := cutSuffix (subtype.map Char.toLower)
    some { type := type.map Char.toLower, subtype := subtype, suffix := suffix }
  else none

/-- The media type that a text spells. -/
def parse? (s : String) : Option MediaType := do
  let (type, rest) ← Text.cut? '/' s.toList
  match Text.cut? ';' rest with
  | none => ofNames? type rest
  | some (subtype, parameters) =>
    if subtype ≠ [] && areParameters parameters then ofNames? type subtype else none

/-- The word for JSON among subtypes and suffixes. -/
def jsonName : List Char := ['j', 's', 'o', 'n']

/-- The type is JSON, or a format that is built on JSON. -/
def isJson (m : MediaType) : Bool :=
  m.type == "application".toList && (m.subtype == jsonName || m.suffix == some jsonName)

example : (parse? "Application/Ld+JSON; charset=\"utf-8\"").any isJson = true := by decide

end MediaType
end Web
end PageBuilder
