/-!
# Punycode

A label beyond ASCII is written in ASCII: first its ASCII characters, then a hyphen, then a number
for each of the others. The characters are inserted in the order of their code points, and among
equal ones from left to right; a number says how many places and code points lie between one
insertion and the next. Numbers are written in 36 digits, the lowest first; the digits below a
threshold end a number, and the thresholds adapt to the sizes of the numbers so far.
-/

namespace PageBuilder
namespace Web
namespace Punycode

/-- The value of a digit. -/
def digit? (c : Char) : Option Nat :=
  if 'a' ≤ c ∧ c ≤ 'z' then some (c.toNat - 'a'.toNat)
  else if 'A' ≤ c ∧ c ≤ 'Z' then some (c.toNat - 'A'.toNat)
  else if c.isDigit then some (c.toNat - '0'.toNat + 26)
  else none

/-- The digit of a value. -/
def digitChar (d : Nat) : Char :=
  if d < 26 then Char.ofNat ('a'.toNat + d) else Char.ofNat ('0'.toNat + (d - 26))

/-- The threshold of a digit at a place. Places are counted in steps of 36. -/
def threshold (place bias : Nat) : Nat := if place ≤ bias then 1 else min 26 (place - bias)

theorem threshold_pos (place bias : Nat) : 1 ≤ threshold place bias := by
  unfold threshold; split <;> omega

/-- Divide by 35 until at most 455 is left; the places that this takes are added to the bias. -/
def settle (delta bias : Nat) : Nat :=
  if 455 < delta then settle (delta / 35) (bias + 36) else bias + 36 * delta / (delta + 38)
termination_by delta

/-- The bias after a number, given the count of characters then; the first number counts for
less. -/
def adapt (delta count : Nat) (first : Bool) : Nat :=
  let d := if first then delta / 700 else delta / 2
  settle (d + d / count) 0

/-- The bias at the start. -/
def initialBias : Nat := 72

/-- The first code point beyond ASCII. -/
def initialCode : Nat := 128

/-! ### Writing -/

/-- The digits of a number from a place on. -/
def digitsOf (bias place n : Nat) : List Char :=
  let t := threshold place bias
  if n < t then [digitChar n]
  else digitChar (t + (n - t) % (36 - t)) :: digitsOf bias (place + 36) ((n - t) / (36 - t))
termination_by n
decreasing_by
  have := threshold_pos place bias
  have := Nat.div_le_self (n - threshold place bias) (36 - threshold place bias)
  omega

/-- Where the writer is: the code point and the place of the next insertion, and what is written. -/
structure Writing where
  code : Nat := initialCode
  place : Nat := 0
  bias : Nat := initialBias
  /-- The number of characters in place. -/
  count : Nat
  isFirst : Bool := true
  done : List Char

/-- Write the insertion of a character at an index of a text. -/
def write (cs : List Char) (w : Writing) (e : Char × Nat) : Writing :=
  let place := (cs.take e.2).countP fun c => c ≤ e.1
  let delta := (e.1.toNat - w.code) * (w.count + 1) + place - w.place
  { code := e.1.toNat
    place := place + 1
    bias := adapt delta (w.count + 1) w.isFirst
    count := w.count + 1
    isFirst := false
    done := w.done ++ digitsOf w.bias 36 delta }

/-- A character of ASCII. -/
def isAscii (c : Char) : Bool := c.toNat < 0x80

/-- A label in ASCII. -/
def encode (cs : List Char) : List Char :=
  let basic := cs.filter isAscii
  let start := if basic = [] then [] else basic ++ ['-']
  let others := (cs.zipIdx.filter fun e => !isAscii e.1).mergeSort fun a b => a.1 ≤ b.1
  (others.foldl (write cs) { count := basic.length, done := start }).done

/-! ### Reading -/

/-- The first number that is too large. -/
def limit : Nat := Nat.pow 2 32

/-- Where the reader is: the code point and the place of the last insertion, and the characters in
place. -/
structure Reading where
  code : Nat := initialCode
  /-- The place before the number at hand. -/
  start : Nat := 0
  /-- That place and the part of the number that is read. -/
  place : Nat := 0
  bias : Nat := initialBias
  /-- The value of the next digit, and its place among the digits. -/
  weight : Nat := 1
  digitPlace : Nat := 36
  done : List Char

/-- Insert a character where the number at hand says. -/
def insert? (r : Reading) : Option Reading :=
  let count := r.done.length + 1
  let code := r.code + r.place / count
  if code.isValidChar then
    some {
      code := code
      start := r.place % count + 1
      place := r.place % count + 1
      bias := adapt (r.place - r.start) count (r.start == 0)
      done := r.done.insertIdx (r.place % count) (Char.ofNat code) }
  else none

/-- Read a digit. -/
def read? (r : Reading) (c : Char) : Option Reading := do
  let d ← digit? c
  let t := threshold r.digitPlace r.bias
  let r := { r with place := r.place + d * r.weight }
  if limit ≤ r.place then none
  else if d < t then insert? r
  else if limit ≤ r.weight * (36 - t) then none
  else some { r with weight := r.weight * (36 - t), digitPlace := r.digitPlace + 36 }

/-- The ASCII characters before the last hyphen, and the digits after it; a hyphen at the head is no
digit. -/
def parts (cs : List Char) : List Char × List Char :=
  let digits := (cs.reverse.takeWhile fun c => c != '-').reverse
  let basic := (cs.take (cs.length - digits.length)).dropLast
  if basic = [] then ([], cs) else (basic, digits)

/-- The label that a text in ASCII stands for. -/
def decode? (cs : List Char) : Option (List Char) :=
  let (basic, digits) := parts cs
  if basic.all isAscii then
    (digits.foldlM read? { done := basic }).bind fun r =>
      if r.digitPlace = 36 then some r.done else none
  else none

end Punycode
end Web
end PageBuilder
