import PageBuilder.Web.Host

/-!
# URLs

A URL is read as browsers read it: blanks around it and line ends in it do not count, the scheme and
the host are in lower case, the port that the scheme implies is left out, `.` and `..` in the path
are resolved, and what may not stand in a part is written with percent signs. Of URLs whose schemes
are not of this kind only the scheme and the host are read.
-/

namespace PageBuilder
namespace Web

/-- A name and a password, as they are written. -/
structure Login where
  name : String
  password : Option String := none
deriving DecidableEq

/-- Who and where: a login, a host and a port. -/
structure Authority where
  login : Option Login := none
  host : String
  port : Option Nat := none
deriving DecidableEq

/-- A URL: its scheme, the authority if it has one, and what follows. -/
structure Url where
  scheme : String
  authority : Option Authority := none
  tail : String
deriving DecidableEq

/-- A login and the sign after it. -/
def Login.text (l : Login) : String := l.name ++ (l.password.elim "" fun p => ":" ++ p) ++ "@"

/-- A login, a host and a port. -/
def Authority.text (a : Authority) : String :=
  (a.login.elim "" Login.text) ++ a.host ++ (a.port.elim "" fun n => ":" ++ toString n)

namespace Url

/-- The URL as it is written. -/
def text (u : Url) : String :=
  u.scheme ++ ":" ++ (u.authority.elim "" fun a => "//" ++ a.text) ++ u.tail

/-! ### The scheme -/

/-- A character of a scheme after its first letter. -/
def isSchemeChar (c : Char) : Bool := c.isAlphanum || c == '+' || c == '-' || c == '.'

/-- The scheme in lower case, and what follows its colon. -/
def scheme? (cs : List Char) : Option (String × List Char) :=
  match cs with
  | [] => none
  | c :: _ =>
    match cs.dropWhile isSchemeChar with
    | ':' :: rest =>
      if c.isAlpha then some (String.ofList ((cs.takeWhile isSchemeChar).map Char.toLower), rest)
      else none
    | _ => none

/-- How the URLs of a scheme are built. -/
inductive Kind where
  /-- There is a host, and a port that is implied. -/
  | hosted (port : Nat)
  /-- There may be a host, but neither login nor port. -/
  | file
  | plain
deriving DecidableEq

/-- How the URLs of a scheme are built. -/
def kindOf : String → Kind
  | "http" | "ws" => .hosted 80
  | "https" | "wss" => .hosted 443
  | "ftp" => .hosted 21
  | "file" => .file
  | _ => .plain

/-- A blank or control character at the ends of a URL. -/
def isOuter (c : Char) : Bool := c.toNat ≤ 0x20

/-- A character that does not count wherever it stands. -/
def isIgnored (c : Char) : Bool := c == '\t' || c == '\n' || c == '\x0d'

/-- Drop what does not count. -/
def clean (cs : List Char) : List Char :=
  ((cs.dropWhile isOuter).reverse.dropWhile isOuter).reverse.filter fun c => !isIgnored c

/-- Both slashes separate, but in plain URLs. -/
def isSlash (k : Kind) (c : Char) : Bool := c == '/' || (c == '\\' && k != .plain)

/-- The end of an authority. -/
def endsAuthority (k : Kind) (c : Char) : Bool := isSlash k c || c == '?' || c == '#'

/-! ### Path, query and fragment -/

/-- What may not stand in a fragment. -/
def fragmentSet : List Char := [' ', '"', '<', '>', '\x60']

/-- What may not stand in a query. -/
def querySet : List Char := [' ', '"', '#', '<', '>', '\x27']

/-- What may not stand in a path. -/
def pathSet : List Char := fragmentSet ++ ['#', '?', '\x7b', '\x7d']

/-- What may not stand in a name or password. -/
def loginSet : List Char := pathSet ++ ['/', ':', ';', '=', '@', '[', '\\', ']', '^', '|']

/-- The segments between slashes of either kind. -/
def segments (cs : List Char) : List (List Char) :=
  Text.split '/' (cs.map fun c => if c = '\\' then '/' else c)

/-- A segment with its dots written out; a dot may be written with a percent sign. -/
def dots : List Char → List Char
  | '%' :: '2' :: 'e' :: cs => '.' :: dots cs
  | c :: cs => c :: dots cs
  | [] => []

/-- A letter that names a drive, with its colon or bar. -/
def isDrive : List Char → Bool
  | [c, mark] => c.isAlpha && (mark == ':' || mark == '|')
  | _ => false

/-- Leave the last segment; a drive is not left. -/
def leave : List (List Char) → List (List Char)
  | [] => []
  | s :: rest => if isDrive s then s :: rest else rest

/-- Resolve dots; `done` holds the segments so far, the last one first. -/
def resolve (done : List (List Char)) : List (List Char) → List (List Char)
  | [] => done.reverse
  | s :: rest =>
    let last := rest.isEmpty
    let word := dots (s.map Char.toLower)
    if word = ['.', '.'] then resolve (if last then [] :: leave done else leave done) rest
    else if word = ['.'] then resolve (if last then [] :: done else done) rest
    else resolve (percentEncode pathSet s :: done) rest

/-- The path as it is written; it begins with a slash. -/
def pathText (cs : List Char) : List Char :=
  let body := match cs with
    | c :: rest => if c = '/' ∨ c = '\\' then rest else c :: rest
    | [] => []
  '/' :: Text.join '/' (resolve [] (segments body))

/-- A part after its mark, if it is there. -/
def partText (mark : Char) (set : List Char) : Option (List Char) → List Char
  | none => []
  | some cs => mark :: percentEncode set cs

/-- The parts before and after the first mark, if there is one. -/
def cutOff (mark : Char) (cs : List Char) : List Char × Option (List Char) :=
  match Text.cut? mark cs with
  | some (front, back) => (front, some back)
  | none => (cs, none)

/-- What follows an authority as it is written. -/
def tailText (cs : List Char) : String :=
  let (front, fragment) := cutOff '#' cs
  let (path, query) := cutOff '?' front
  String.ofList (pathText path ++ partText '?' querySet query ++ partText '#' fragmentSet fragment)

/-! ### The authority -/

/-- The parts before and after the last sign of a login. -/
def cutLogin? (cs : List Char) : Option (List Char × List Char) :=
  (Text.cut? '@' cs.reverse).map fun p => (p.2.reverse, p.1.reverse)

/-- The login that a text spells; one without a name and a password is none. -/
def login? (cs : List Char) : Option Login :=
  let (name, password) := cutOff ':' cs
  let password := password.filter (· ≠ [])
  if name = [] ∧ password = none then none
  else some {
    name := String.ofList (percentEncode loginSet name)
    password := password.map fun p => String.ofList (percentEncode loginSet p) }

/-- The host at the head, and what follows it: the colon of the port outside brackets, or
nothing. -/
def cutHost (bracketed : Bool) : List Char → List Char × List Char
  | [] => ([], [])
  | c :: cs =>
    if c = ':' ∧ !bracketed then ([], c :: cs)
    else
      let p := cutHost (if c = '[' then true else if c = ']' then false else bracketed) cs
      (c :: p.1, p.2)

/-- The port after its colon, unless it is the one that is implied; no digits are none. -/
def port? (k : Kind) (ds : List Char) : Except UrlError (Option Nat) :=
  if !ds.all Char.isDigit then .error .invalidPort
  else
    let n := Numeral.natOf 0 ds
    if 65535 < n then .error .invalidPort
    else .ok (if ds = [] ∨ k = .hosted n then none else some n)

/-- The host of a URL. -/
def hostFor : Kind → List Char → Except UrlError String
  | .plain, cs => plainHostText cs
  | _, cs => if cs = [] then .error .emptyHost else hostText cs

/-- The authority that a text spells. The sign of a login may not stand alone before what follows
the authority. -/
def authority? (k : Kind) (cs after : List Char) : Except UrlError Authority := do
  let (front, rest) := (cutLogin? cs).getD ([], cs)
  if cs = ['@'] ∧ after ≠ [] then throw .emptyHost
  let login := login? front
  let (hostPart, portPart) := cutHost false rest
  let host ← hostFor k hostPart
  if host = "" ∧ (portPart ≠ [] ∨ login.isSome) then throw .emptyHost
  let port ← port? k ((portPart.drop 1).takeWhile fun c => c != '\\')
  return { login := login, host := host, port := port }

/-- The authority of a file: a host, or none before a drive. -/
def fileAuthority? (cs : List Char) : Except UrlError Authority :=
  if cs = [] ∨ isDrive cs then .ok { host := "" } else (hostText cs).map fun host =>
    { host := host }

/-- What follows the slashes before an authority. A scheme with hosts has an authority in any
case. -/
def afterSlashes? (k : Kind) (cs : List Char) : Option (List Char) :=
  match k, cs with
  | .hosted _, cs => some (cs.dropWhile (isSlash k))
  | _, a :: b :: cs => if isSlash k a && isSlash k b then some cs else none
  | _, _ => none

/-- A URL of some kind, after its scheme. -/
def ofKind (k : Kind) (scheme : String) (rest : List Char) : Except UrlError Url :=
  match afterSlashes? k rest with
  | none => .ok ⟨scheme, none, String.ofList rest⟩
  | some body =>
    let front := body.takeWhile fun c => !endsAuthority k c
    let after := body.dropWhile fun c => !endsAuthority k c
    match k with
    | .hosted _ => (authority? k front after).map fun a => ⟨scheme, some a, tailText after⟩
    | .file => (fileAuthority? front).map fun a => ⟨scheme, some a, String.ofList after⟩
    | .plain => (authority? k front after).map fun a => ⟨scheme, some a, String.ofList after⟩

/-- The URL that a text spells. -/
def parse (s : String) : Except UrlError Url :=
  match scheme? (clean s.toList) with
  | none => .error .relativeWithoutBase
  | some (scheme, rest) => ofKind (kindOf scheme) scheme rest

/-- Requests can be sent to the URL. -/
def isWeb (u : Url) : Bool := u.scheme == "http" || u.scheme == "https"

/-- The text that is written with percent signs is one in UTF-8. -/
def isText (s : String) : Bool := (percentDecode? s.toList).isSome

/-- The login can be sent apart from the URL: its name is a text, and one of its parts is there and
a text. -/
def Login.canLeave (l : Login) : Bool := isText l.name && (l.name != "" || l.password.any isText)

/-- The URL without its login, if that can be sent apart. -/
def withoutLogin (u : Url) : Url :=
  { u with authority := u.authority.map fun a =>
    { a with login := a.login.filter fun l => !Login.canLeave l } }

/-- The longest URL, in bytes. -/
def sizeLimit : Nat := 65534

/-- A character of a domain name that may not stand in an address to send to. -/
def isUnsendable (c : Char) : Bool := c == '"' || c == '\x60' || c == '\x7b' || c == '\x7d'

/-- The URL can be written as an address to send to. -/
def isSendable (u : Url) : Bool :=
  u.text.utf8ByteSize ≤ sizeLimit && u.authority.all fun a => !a.host.toList.any isUnsendable

end Url
end Web
end PageBuilder
