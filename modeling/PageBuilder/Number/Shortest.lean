import PageBuilder.Number.Binary64

/-!
# Shortest decimals

The decimal text of a finite binary64 number has the fewest digits that still read back as that
number, and of two such decimals the nearer one. `shortest` finds the digits: for 1, 2, ... 17
digits it tests the two neighbours of the number on the decimal grid of that many digits against the
interval of reals that round to the number. A `Layout` says how digits become text; `Layout.json`
and `Layout.plain` are the two in use.
-/

namespace PageBuilder

/-- The decimal `digits * 10^exponent`. -/
structure Decimal where
  digits : Nat
  exponent : Int
deriving DecidableEq

/-- Where a tie between two equally near shortest decimals goes. -/
inductive Tie where
  | even
  | up
deriving DecidableEq

namespace Decimal

/-- Twice the decimal in units of 2^-1074, times `scale`: with `scale = 10^-exponent` this is a
whole number. -/
def doubled (d : Decimal) : Nat := d.digits * 2 * unitsPerOne * Nat.pow 10 d.exponent.toNat

/-- The power of ten that makes a decimal whole. -/
def scale (exponent : Int) : Nat := Nat.pow 10 (-exponent).toNat

/-- Twice the ends of the interval of reals that round to a magnitude, and whether the ends belong
to it. -/
structure Interval where
  low : Nat
  high : Nat
  closed : Bool

/-- The reals that round to `units`: half way to the neighbours, which are half as far below a power
of two. -/
def Interval.around (units : Nat) : Interval :=
  let s := gridShift units
  let below := if 0 < s ∧ units = Nat.pow 2 (52 + s) then Nat.pow 2 (s - 1) else Nat.pow 2 s
  { low := 2 * units - below, high := 2 * units + Nat.pow 2 s,
    closed := units / Nat.pow 2 s % 2 == 0 }

/-- Whether a decimal lies in the interval. -/
def Interval.holds (i : Interval) (d : Decimal) : Bool :=
  let x := d.doubled
  let t := scale d.exponent
  if i.closed then i.low * t ≤ x && x ≤ i.high * t else i.low * t < x && x < i.high * t

/-- The magnitude is at least `10^e`. -/
def reaches (units : Nat) (e : Int) : Bool := doubled ⟨1, e⟩ ≤ 2 * units * scale e

/-- Raise a lower bound of the decimal exponent while the magnitude reaches the next power of
ten. -/
def climb (units : Nat) : Nat → Int → Int
  | 0, e => e
  | n + 1, e => if reaches units (e + 1) then climb units n (e + 1) else e

/-- The exponent of the leading digit. The start, from the binary logarithm, is at most three below
it. -/
def leadingExponent (units : Nat) : Int :=
  climb units 4 (((units.log2 : Int) - 1074) * 30103 / 100000 - 1)

/-- Drop the zeros at the end of the digits. -/
def trimZeros : Nat → Decimal → Decimal
  | 0, d => d
  | n + 1, d =>
    if d.digits % 10 = 0 ∧ d.digits ≠ 0 then trimZeros n ⟨d.digits / 10, d.exponent + 1⟩ else d

/-- The decimal with its last digit at `10^exponent` that is nearest to the magnitude among those of
its interval. -/
def nearest? (tie : Tie) (units : Nat) (exponent : Int) : Option Decimal :=
  let i := Interval.around units
  let t := scale exponent
  let step := doubled ⟨1, exponent⟩
  let x := 2 * units * t
  let below : Decimal := ⟨x / step, exponent⟩
  let above : Decimal := ⟨x / step + 1, exponent⟩
  match i.holds below, i.holds above with
  | false, false => none
  | true, false => some below
  | false, true => some above
  | true, true =>
    let down := x % step
    if 2 * down < step then some below
    else if step < 2 * down then some above
    else match tie with
      | .up => some above
      | .even => if below.digits % 2 = 0 then some below else some above

/-- The shortest decimal that rounds to a positive magnitude, the nearest of those. -/
def shortest (tie : Tie) (units : Nat) : Decimal :=
  let e := leadingExponent units
  match (List.range 17).findSome? fun k : Nat => nearest? tie units (e - k) with
  | some d => trimZeros 20 d
  | none => ⟨0, 0⟩

end Decimal

/-- How the digits of a number are written. -/
structure Layout where
  /-- The number of places before the decimal point with which numbers are still written without an
  exponent. -/
  positional : Int → Bool
  /-- A whole number is written with `.0`. -/
  fraction : Bool
  /-- Where a tie goes. -/
  tie : Tie

namespace Layout

/-- Numbers in JSON: without an exponent from 1e-5 up to 1e16, and never without a fraction or an
exponent. -/
def json : Layout := ⟨fun places => -5 < places && places ≤ 16, true, .even⟩

/-- Numbers in messages: never an exponent, and whole numbers without a fraction. -/
def plain : Layout := ⟨fun _ => true, false, .up⟩

/-- Write a decimal. -/
def write (l : Layout) (d : Decimal) : String :=
  let digits := Nat.toDigits 10 d.digits
  let places : Int := digits.length + d.exponent
  if l.positional places then
    if 0 ≤ d.exponent then
      String.ofList (digits ++ List.replicate d.exponent.toNat '0') ++
        if l.fraction then ".0" else ""
    else if 0 < places then
      String.ofList (digits.take places.toNat ++ '.' :: digits.drop places.toNat)
    else
      "0." ++ String.ofList (List.replicate (-places).toNat '0' ++ digits)
  else
    let power := places - 1
    let mantissa := match digits with
      | [] => []
      | [c] => [c]
      | c :: cs => c :: '.' :: cs
    String.ofList mantissa ++ "e" ++ (if power < 0 then "-" else "+") ++ toString power.natAbs

/-- Write a finite number. -/
def render (l : Layout) (x : Finite64) : String :=
  (if x.negative then "-" else "") ++
    if x.units = 0 then (if l.fraction then "0.0" else "0")
    else l.write (Decimal.shortest l.tie x.units)

/-- Write a number. -/
def renderAny (l : Layout) : Binary64 → String
  | .finite x => l.render x
  | .infinite negative => if negative then "-inf" else "inf"
  | .nan => "NaN"

end Layout

end PageBuilder
