import PageBuilder.Number.Numeral
import PageBuilder.Text.Blank

/-!
# Lengths and colours

A length is a number and a unit written behind it, such as `12.5px`; the unit is made of letters and
percent signs and may be empty. A colour is `#` before 3, 4, 6 or 8 hexadecimal digits, a call of
one of the colour functions, or a word.
-/

namespace PageBuilder
namespace Policy

/-- A number with a unit. -/
structure Length where
  number : Binary64
  unit : List Char

namespace Length

/-- A character of the number of a length. -/
def isNumberChar (c : Char) : Bool := c.isDigit || c == '.'

/-- A character of a unit. -/
def isUnitChar (c : Char) : Bool := c.isAlpha || c == '%'

/-- The sign at the head. -/
def sign : List Char → List Char
  | '-' :: _ => ['-']
  | '+' :: _ => ['+']
  | _ => []

/-- The length that a text spells; blanks around it do not count. -/
def read? (cs : List Char) : Option Length :=
  let text := Text.trim cs
  let head := sign text
  let body := text.drop head.length
  let unit := body.dropWhile isNumberChar
  (Numeral.read (head ++ body.takeWhile isNumberChar)).bind fun x =>
    if unit.all isUnitChar then some ⟨x, unit⟩ else none

end Length

/-- A hexadecimal digit. -/
def isHexDigit (c : Char) : Bool := c.isDigit || 'a' ≤ c && c ≤ 'f' || 'A' ≤ c && c ≤ 'F'

/-- The colour functions. -/
def colorFunctions : List (List Char) :=
  ["rgb(".toList, "rgba(".toList, "hsl(".toList, "hsla(".toList]

/-- Whether a text is a colour; blanks around it do not count. -/
def isColor (cs : List Char) : Bool :=
  match Text.trim cs with
  | '#' :: digits => [3, 4, 6, 8].contains digits.length && digits.all isHexDigit
  | text =>
    let lower := text.map Char.toLower
    if colorFunctions.any fun f => f.isPrefixOf lower then lower.getLast? == some ')'
    else !text.isEmpty && text.all Char.isAlpha

end Policy
end PageBuilder
