import PageBuilder.Number.Numeral
import PageBuilder.Text.Split

/-!
# Addresses

IPv4 addresses in any of their notations, IPv6 addresses, and the one usual form in which each is
written.
-/

namespace PageBuilder
namespace Web

/-- The number that digits spell in a base. -/
def natural? (base : Nat) (cs : List Char) : Option Nat :=
  cs.foldlM (fun n c => (Numeral.hexDigit? c).bind fun d =>
    if d < base then some (n * base + d) else none) 0

/-! ### IPv4 -/

/-- A number of an IPv4 address: hexadecimal after `0x`, octal after `0`, or else decimal. -/
def ipv4Number? (cs : List Char) : Option Nat :=
  match cs with
  | [] => none
  | '0' :: 'x' :: ds | '0' :: 'X' :: ds => natural? 16 ds
  | '0' :: d :: ds => natural? 8 (d :: ds)
  | ds => natural? 10 ds

/-- The labels of a domain; one dot at the end does not count. -/
def labels (domain : List Char) : List (List Char) :=
  let ls := Text.split '.' domain
  if ls.getLast? = some [] ∧ 1 < ls.length then ls.dropLast else ls

/-- A domain whose last label is a number is an address. -/
def endsInNumber (domain : List Char) : Bool :=
  match (labels domain).getLast? with
  | none => false
  | some l => (!l.isEmpty && l.all Char.isDigit) ||
      match l with
      | '0' :: 'x' :: ds | '0' :: 'X' :: ds => (natural? 16 ds).isSome
      | _ => false

/-- The address of up to four numbers; the last one fills the bytes that are left. -/
def ipv4? (domain : List Char) : Option Nat := do
  let ns ← (labels domain).mapM ipv4Number?
  let last ← ns.getLast?
  if 4 < ns.length ∨ ns.dropLast.any (255 < ·) ∨ Nat.pow 256 (5 - ns.length) ≤ last then none
  else some ((ns.dropLast.zipIdx.foldl (fun sum p => sum + p.1 * Nat.pow 256 (3 - p.2)) 0) + last)

/-- Four bytes with dots between them. -/
def ipv4Text (n : Nat) : String :=
  toString (n / Nat.pow 2 24) ++ "." ++ toString (n / Nat.pow 2 16 % 256) ++ "." ++
    toString (n / Nat.pow 2 8 % 256) ++ "." ++ toString (n % 256)

/-! ### IPv6 -/

/-- A group of an IPv6 address: up to four hexadecimal digits. -/
def ipv6Group? (cs : List Char) : Option Nat :=
  if cs = [] ∨ 4 < cs.length then none else natural? 16 cs

/-- A byte in decimal digits, without zeros in front. -/
def byte? (cs : List Char) : Option Nat :=
  if cs = [] ∨ (cs.head? = some '0' ∧ cs ≠ ['0']) then none else (natural? 10 cs).filter (· ≤ 255)

/-- The two groups that four bytes make. -/
def byteGroups? (cs : List Char) : Option (List Nat) := do
  match ← (Text.split '.' cs).mapM byte? with
  | [a, b, c, d] => some [a * 256 + b, c * 256 + d]
  | _ => none

/-- The groups of the parts between colons. At the end of an address the last part may be four
bytes. -/
def groupsOfParts? (atEnd : Bool) : List (List Char) → Option (List Nat)
  | [] => some []
  | [part] =>
    if atEnd && part.contains '.' then byteGroups? part else (ipv6Group? part).map fun g => [g]
  | part :: parts => do return (← ipv6Group? part) :: (← groupsOfParts? atEnd parts)

/-- Groups with colons between them; there may be none. -/
def ipv6Groups? (atEnd : Bool) (cs : List Char) : Option (List Nat) :=
  if cs = [] then some [] else groupsOfParts? atEnd (Text.split ':' cs)

/-- The parts before and after the first double colon. -/
def cutDoubleColon? : List Char → Option (List Char × List Char)
  | ':' :: ':' :: cs => some ([], cs)
  | c :: cs => (cutDoubleColon? cs).map fun p => (c :: p.1, p.2)
  | [] => none

/-- The eight groups of an address; a double colon stands for as many zeros as are missing. -/
def ipv6? (cs : List Char) : Option (List Nat) :=
  match cutDoubleColon? cs with
  | none => (ipv6Groups? true cs).bind fun gs => if gs.length = 8 then some gs else none
  | some (front, back) => do
    let fs ← ipv6Groups? false front
    let bs ← ipv6Groups? true back
    if fs.length + bs.length < 8 then
      some (fs ++ List.replicate (8 - fs.length - bs.length) 0 ++ bs) else none

/-- The number of zeros at the head. -/
def zeros (gs : List Nat) : Nat := (gs.takeWhile (· == 0)).length

/-- The first longest run of zeros: its start and its length. -/
def longestZeros (gs : List Nat) : Nat × Nat :=
  (List.range gs.length).foldl (fun best i =>
    if best.2 < zeros (gs.drop i) then (i, zeros (gs.drop i)) else best) (0, 0)

/-- Groups in hexadecimal digits with colons between them. -/
def groupsText (gs : List Nat) : String :=
  ":".intercalate (gs.map fun g => String.ofList (Nat.toDigits 16 g))

/-- An address in brackets; the longest run of at least two zeros becomes a double colon. -/
def ipv6Text (gs : List Nat) : String :=
  let (start, run) := longestZeros gs
  if run < 2 then "[" ++ groupsText gs ++ "]"
  else "[" ++ groupsText (gs.take start) ++ "::" ++ groupsText (gs.drop (start + run)) ++ "]"

end Web
end PageBuilder
