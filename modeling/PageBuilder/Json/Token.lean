import PageBuilder.Json.Numeral

/-!
# Tokens of JSON texts

A JSON text is cut into brackets, braces, commas, colons and scalars; blank are the space, the tab
and the two line ends. A numeral is as long as it can be. Strings hold no control character; a
character beyond the sixteen-bit range may be escaped as a pair of surrogates. A number beyond the
format and a string in which half of a pair stands alone are tokens without a value.
-/

namespace PageBuilder
namespace Json

/-- A token of a JSON text. -/
inductive Token where
  | openObject
  | closeObject
  | openArray
  | closeArray
  | comma
  | colon
  | scalar (value : Json)
  /-- A number beyond the format. -/
  | hugeNumber
  /-- A string in which half of a surrogate pair stands alone. -/
  | halfPair
  /-- No token. -/
  | malformed

namespace Token

/-- The character that an escape letter stands for. -/
def escape? : Char → Option Char
  | '"' => some '"'
  | '\\' => some '\\'
  | '/' => some '/'
  | 'b' => some '\x08'
  | 'f' => some '\x0c'
  | 'n' => some '\n'
  | 'r' => some '\r'
  | 't' => some '\t'
  | _ => none

/-- The number that four hexadecimal digits spell. -/
def unit? (a b c d : Char) : Option Nat := do
  let a ← PageBuilder.Numeral.hexDigit? a
  let b ← PageBuilder.Numeral.hexDigit? b
  let c ← PageBuilder.Numeral.hexDigit? c
  let d ← PageBuilder.Numeral.hexDigit? d
  pure (((a * 16 + b) * 16 + c) * 16 + d)

/-- The first half of a surrogate pair. -/
def isHighSurrogate (n : Nat) : Bool := 0xD800 ≤ n && n < 0xDC00

/-- The second half of a surrogate pair. -/
def isLowSurrogate (n : Nat) : Bool := 0xDC00 ≤ n && n < 0xE000

/-- The character of a surrogate pair. -/
def pairChar (high low : Nat) : Char :=
  Char.ofNat (0x10000 + (high - 0xD800) * 0x400 + (low - 0xDC00))

/-- Add a character to a string in reverse. A first half before it stands alone, and then the string
has no value. -/
def push (done : Option (List Char)) (high : Option Nat) (c : Char) : Option (List Char) :=
  if high.isSome then none else done.map (c :: ·)

/-- The characters of a string after its opening quote, and what follows the closing one. `done`
holds the characters before in reverse, unless half of a pair stands alone there, and `high` the
first half of a pair that waits for its second half. -/
def string? (done : Option (List Char)) (high : Option Nat) :
    List Char → Option (Option (List Char) × List Char)
  | '"' :: cs => some (if high.isSome then none else done.map List.reverse, cs)
  | '\\' :: 'u' :: a :: b :: c :: d :: cs =>
    match high, unit? a b c d with
    | _, none => none
    | some h, some n =>
      string? (if isLowSurrogate n then done.map (pairChar h n :: ·) else none) none cs
    | none, some n =>
      if isHighSurrogate n then string? done (some n) cs
      else string? (if isLowSurrogate n then none else done.map (Char.ofNat n :: ·)) none cs
  | '\\' :: c :: cs =>
    match escape? c with
    | none => none
    | some e => string? (push done high e) none cs
  | c :: cs => if c.toNat < 0x20 then none else string? (push done high c) none cs
  | [] => none

/-- The token of a string, after its opening quote. -/
def ofString (cs : List Char) : Token × List Char :=
  match string? (some []) none cs with
  | none => (malformed, [])
  | some (none, rest) => (halfPair, rest)
  | some (some s, rest) => (scalar (.string (String.ofList s)), rest)

/-- The token of a word at the head of a text. -/
def ofWord (word : List Char) (v : Json) (cs : List Char) : Token × List Char :=
  if word.isPrefixOf cs then (scalar v, cs.drop word.length) else (malformed, [])

/-- The token of a numeral at the head of a text. -/
def ofNumeral (cs : List Char) : Token × List Char :=
  match Numeral.scan? cs with
  | none => (malformed, [])
  | some (p, rest) =>
    match p.value? with
    | none => (hugeNumber, rest)
    | some n => (scalar (.number n), rest)

/-- The token at the head of a text that starts with `c`, and what follows it. -/
def next (c : Char) (cs : List Char) : Token × List Char :=
  match c with
  | '\x7b' => (openObject, cs)
  | '\x7d' => (closeObject, cs)
  | '[' => (openArray, cs)
  | ']' => (closeArray, cs)
  | ',' => (comma, cs)
  | ':' => (colon, cs)
  | '"' => ofString cs
  | 't' => ofWord ['r', 'u', 'e'] (.bool true) cs
  | 'f' => ofWord ['a', 'l', 's', 'e'] (.bool false) cs
  | 'n' => ofWord ['u', 'l', 'l'] .null cs
  | c => ofNumeral (c :: cs)

/-- Blank characters between tokens. -/
def isBlank (c : Char) : Bool := c == ' ' || c == '\t' || c == '\n' || c == '\r'

theorem length_string?_le {done : Option (List Char)} {high : Option Nat} {cs : List Char}
    {p : Option (List Char) × List Char} (h : string? done high cs = some p) :
    p.2.length ≤ cs.length := by
  fun_induction string? done high cs generalizing p <;> grind

theorem length_ofString_le (cs : List Char) : (ofString cs).2.length ≤ cs.length := by
  unfold ofString
  split
  · simp
  · rename_i h; exact length_string?_le h
  · rename_i h; exact length_string?_le h

theorem length_ofWord_le (word : List Char) (v : Json) (cs : List Char) :
    (ofWord word v cs).2.length ≤ cs.length := by unfold ofWord; split <;> simp

theorem length_ofNumeral_le (c : Char) (cs : List Char) :
    (ofNumeral (c :: cs)).2.length ≤ cs.length := by
  unfold ofNumeral
  split
  · simp
  · rename_i h
    have := Numeral.length_scan?_lt h
    simp only [List.length_cons] at this
    split <;> simp only <;> omega

theorem length_next_le (c : Char) (cs : List Char) : (next c cs).2.length ≤ cs.length := by
  unfold next
  split
  all_goals first
    | exact Nat.le_refl _
    | exact length_ofString_le cs
    | exact length_ofWord_le _ _ cs
    | exact length_ofNumeral_le _ cs

end Token
end Json
end PageBuilder
