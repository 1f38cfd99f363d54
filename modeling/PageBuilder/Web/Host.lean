import PageBuilder.Web.Address
import PageBuilder.Web.Domain.Name

/-!
# Hosts in URLs

The host of a URL of the web is a domain name in its ASCII form, an IPv4 address, or an IPv6 address
in brackets. Other schemes give no meaning to a host that is not in brackets; it only may not hold
certain characters.
-/

namespace PageBuilder
namespace Web

/-- Why a text is no URL. -/
inductive UrlError where
  | relativeWithoutBase
  | emptyHost
  | invalidPort
  | invalidIpv4
  | invalidIpv6
  | invalidDomain
  | invalidHostCharacter
deriving DecidableEq

/-- The text of an error. -/
def UrlError.message : UrlError → String
  | relativeWithoutBase => "relative URL without a base"
  | emptyHost => "empty host"
  | invalidPort => "invalid port number"
  | invalidIpv4 => "invalid IPv4 address"
  | invalidIpv6 => "invalid IPv6 address"
  | invalidDomain => "invalid international domain name"
  | invalidHostCharacter => "invalid domain character"

/-! ### Percent signs -/

/-- The digits of a byte after a percent sign. -/
def percentByte (n : UInt8) : List Char :=
  let hex (d : Nat) : Char :=
    if d < 10 then Char.ofNat ('0'.toNat + d) else Char.ofNat ('A'.toNat + (d - 10))
  ['%', hex (n.toNat / 16), hex (n.toNat % 16)]

/-- The bytes of a character in UTF-8. -/
def bytesOf (c : Char) : List UInt8 := (String.singleton c).toUTF8.toList

/-- Write the characters of a set, control characters and all beyond ASCII with percent signs. -/
def percentEncode (set : List Char) (cs : List Char) : List Char :=
  cs.flatMap fun c =>
    if c.toNat < 0x20 || 0x7F ≤ c.toNat || set.contains c then
      (bytesOf c).flatMap percentByte else [c]

/-- The bytes of a text; a percent sign with two hexadecimal digits after it stands for one byte. -/
def percentBytes : List Char → List UInt8
  | '%' :: a :: b :: cs =>
    match Numeral.hexDigit? a, Numeral.hexDigit? b with
    | some x, some y => UInt8.ofNat (x * 16 + y) :: percentBytes cs
    | _, _ => bytesOf '%' ++ percentBytes (a :: b :: cs)
  | c :: cs => bytesOf c ++ percentBytes cs
  | [] => []

/-- The text of the bytes that a text stands for, if they are UTF-8. -/
def percentDecode? (cs : List Char) : Option String := String.fromUTF8? ⟨(percentBytes cs).toArray⟩

/-! ### Hosts -/

/-- The written form of an address in brackets, after the opening one. -/
def bracketedText (cs : List Char) : Except UrlError String :=
  if cs.getLast? = some ']' then
    match ipv6? cs.dropLast with
    | some gs => .ok (ipv6Text gs)
    | none => .error .invalidIpv6
  else .error .invalidIpv6

/-- The written form of a domain name or IPv4 address. -/
def domainText (cs : List Char) : Except UrlError String :=
  match (percentDecode? cs).bind fun s => Domain.toAscii? s.toList with
  | none => .error .invalidDomain
  | some [] => .error .emptyHost
  | some domain =>
    if endsInNumber domain then
      match ipv4? domain with
      | some n => .ok (ipv4Text n)
      | none => .error .invalidIpv4
    else .ok (String.ofList domain)

/-- The written form of a host of the web. -/
def hostText : List Char → Except UrlError String
  | '[' :: rest => bracketedText rest
  | cs => domainText cs

/-- A character that may not stand in a host without a meaning. -/
def isForbiddenInHost (c : Char) : Bool := "\x00\t\n\x0d #/:<>?@[\\]^|".toList.contains c

/-- The written form of a host that has no meaning of its own; it may be empty. -/
def plainHostText : List Char → Except UrlError String
  | '[' :: rest => bracketedText rest
  | cs =>
    if cs.any isForbiddenInHost then .error .invalidHostCharacter
    else .ok (String.ofList (percentEncode [] cs))

end Web
end PageBuilder
