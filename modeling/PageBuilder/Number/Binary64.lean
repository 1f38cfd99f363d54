/-!
# Binary64 numbers

Every finite binary64 number is a whole multiple of 2^-1074, so a finite number is a sign and a
count of such units, and comparing two of them is comparing two integers. `roundUnits` brings an
exact quotient to the nearest number of the format, of two equally near ones to the one with the
even last bit; `ofRatio` and `ofDecimal` build on it, and beyond the largest finite number they give
an infinity.
-/

namespace PageBuilder

/-- A finite binary64 number: its sign and its magnitude in units of 2^-1074. -/
structure Finite64 where
  negative : Bool
  units : Nat
deriving DecidableEq

/-- A binary64 number. -/
inductive Binary64 where
  | finite (x : Finite64)
  | infinite (negative : Bool)
  | nan
deriving DecidableEq

/-! ### Rounding -/

/-- The whole number nearest to `num / den`; a half goes to the even neighbour. -/
def roundEven (num den : Nat) : Nat :=
  let q := num / den
  let r := num % den
  if 2 * r < den then q else if den < 2 * r then q + 1 else q + q % 2

/-- The binary logarithm of the distance between neighbours at a magnitude: 53 bits are kept. -/
def gridShift (units : Nat) : Nat := units.log2 + 1 - 53

/-- The magnitude nearest to `num / den` units that 53 bits can hold. -/
def roundUnits (num den : Nat) : Nat :=
  let s := gridShift (num / den)
  roundEven num (den * Nat.pow 2 s) * Nat.pow 2 s

/-- One, in units. -/
def unitsPerOne : Nat := Nat.pow 2 1074

/-- The first magnitude beyond the format, 2^1024, in units. -/
def unitsLimit : Nat := Nat.pow 2 2098

/-- The number of a rounded magnitude. -/
def Binary64.ofUnits (negative : Bool) (units : Nat) : Binary64 :=
  if units < unitsLimit then .finite ⟨negative, units⟩ else .infinite negative

/-- The number nearest to `num / den`. -/
def Binary64.ofRatio (negative : Bool) (num den : Nat) : Binary64 :=
  .ofUnits negative (roundUnits (num * unitsPerOne) den)

/-- The number nearest to `digits * 10^exponent`. Beyond 10^310 all is infinite and below 10^-330
all is zero, so that no large power is built for nothing. -/
def Binary64.ofDecimal (negative : Bool) (digits : Nat) (exponent : Int) : Binary64 :=
  let places := (Nat.toDigits 10 digits).length
  if digits = 0 then .finite ⟨negative, 0⟩
  else if 310 < exponent + places then .infinite negative
  else if exponent + places < -330 then .finite ⟨negative, 0⟩
  else match exponent with
    | .ofNat e => .ofRatio negative (digits * Nat.pow 10 e) 1
    | .negSucc e => .ofRatio negative digits (Nat.pow 10 (e + 1))

/-! ### Order -/

namespace Finite64

/-- The number itself, in units of 2^-1074. -/
def value (x : Finite64) : Int := if x.negative then -x.units else x.units

/-- Zero, without a sign. -/
def zero : Finite64 := ⟨false, 0⟩

/-- Whether the number is a zero of either sign. -/
def isZero (x : Finite64) : Bool := x.units == 0

/-- The number of the other sign. -/
def neg (x : Finite64) : Finite64 := ⟨!x.negative, x.units⟩

/-- The number nearest to an integer below 2^1024. -/
def ofInt (n : Int) : Finite64 := ⟨n < 0, roundUnits (n.natAbs * unitsPerOne) 1⟩

/-- The rounded product of two numbers. -/
def mul (x y : Finite64) : Binary64 :=
  .ofUnits (x.negative != y.negative) (roundUnits (x.units * y.units) unitsPerOne)

/-- The rounded quotient of two numbers; the divisor is not zero. -/
def div (x y : Finite64) : Binary64 :=
  .ofUnits (x.negative != y.negative) (roundUnits (x.units * unitsPerOne) y.units)

/-- Numeric equality: the two zeros are one number. -/
def same (x y : Finite64) : Bool := x.value == y.value

theorem same_iff (x y : Finite64) : x.same y = true ↔ x.value = y.value := by simp [same]

end Finite64

namespace Binary64

/-- `x < y`; nothing is below or above `nan`. -/
def lt : Binary64 → Binary64 → Bool
  | finite x, finite y => x.value < y.value
  | infinite a, infinite b => a && !b
  | infinite a, finite _ => a
  | finite _, infinite b => !b
  | _, _ => false

/-- Whether the number is a zero of either sign. -/
def isZero : Binary64 → Bool
  | finite x => x.isZero
  | _ => false

theorem lt_irrefl (x : Binary64) : x.lt x = false := by
  cases x <;> simp [lt]

theorem lt_trans {x y z : Binary64} (hxy : x.lt y = true) (hyz : y.lt z = true) :
    x.lt z = true := by
  cases x <;> cases y <;> cases z <;> simp_all [lt]
  omega

end Binary64

end PageBuilder
