import PageBuilder.Web.Domain.Direction
import PageBuilder.Web.Domain.Joining
import PageBuilder.Web.Domain.Mapping
import PageBuilder.Web.Domain.Punycode

/-!
# Domain names

A domain name in any script has one form in ASCII. Its characters are brought into one form, and
each label with characters beyond ASCII is written in Punycode after the mark `xn--`. A label that
has the mark already must stand for one that could have been written so. A name is refused if a
label begins with a mark, has a joiner out of place, or is too long, or if the labels do not agree
in their directions.
-/

namespace PageBuilder
namespace Web
namespace Domain

/-- A character that may not stand in a name. -/
def isForbidden (c : Char) : Bool :=
  c.toNat ≤ 0x20 || c.toNat == 0x7F || "%#/:<>?@[\\]^|".toList.contains c

/-- What marks a label in Punycode. -/
def mark : List Char := ['x', 'n', '-', '-']

/-- The longest label that is taken out of Punycode. -/
def decodeLimit : Nat := 2000

/-- The longest label that is put into Punycode. -/
def encodeLimit : Nat := 1000

/-- What stands in Punycode after the mark. The characters have the form that they have in names
already. -/
def decoded? (digits : List Char) : Option (List Char) :=
  if digits.getLast?.all (· == '-') || decodeLimit < digits.length then none
  else (Punycode.decode? digits).filter fun shown => mapped? shown == some shown

/-- A label may stand in a name by itself. -/
def isSound (shown : List Char) : Bool :=
  !(shown.head?.any Text.isMark) && joinersFit [] shown &&
    (shown.all Punycode.isAscii || decide (shown.length ≤ encodeLimit))

/-- A label of a name: the characters that it stands for, and how it is written in ASCII. -/
structure Label where
  shown : List Char
  written : List Char

/-- The label that is given as it is shown or in Punycode. -/
def Label.of? (cs : List Char) : Option Label :=
  ((if mark.isPrefixOf cs then decoded? (cs.drop mark.length) else some cs).filter
    isSound).map fun shown =>
      ⟨shown, if cs.all Punycode.isAscii then cs else mark ++ Punycode.encode shown⟩

/-- The form of a name in ASCII. -/
def toAscii? (cs : List Char) : Option (List Char) := do
  let name ← mapped? cs
  if name.any isForbidden then none
  else
    let labels ← (Text.split '.' name).mapM Label.of?
    if directionsFit (labels.map Label.shown) then
      some (Text.join '.' (labels.map Label.written)) else none

end Domain
end Web
end PageBuilder
