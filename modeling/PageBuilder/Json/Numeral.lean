import PageBuilder.Json.Basic
import PageBuilder.Number.Numeral

/-!
# Numbers in JSON texts

A numeral without point and exponent is an integer if it fits 64 bits, signed or unsigned; `-0` and
anything larger is a binary64 number. A decimal is read by scaling: as many digits as fit 64 bits
make the significand, which is rounded to binary64 and then multiplied or divided by a rounded power
of ten. A number beyond the format has no value.
-/

namespace PageBuilder
namespace Json
namespace Numeral

open PageBuilder.Numeral (digits digitValue natOf sign)

/-- The first number that does not fit a significand. -/
def significandLimit : Nat := Nat.pow 2 64

/-- Append digits to a significand while it stays below the limit; the second part counts the digits
taken. -/
def absorb : Nat → List Char → Nat × Nat
  | s, [] => (s, 0)
  | s, c :: cs =>
    if s * 10 + digitValue c < significandLimit then
      let r := absorb (s * 10 + digitValue c) cs
      (r.1, r.2 + 1)
    else (s, 0)

/-- A power of ten, rounded. -/
def powerOfTen (n : Nat) : Finite64 := Finite64.ofInt (Nat.pow 10 n)

/-- The number, if it is finite. -/
def finite? : Binary64 → Option Finite64
  | .finite x => some x
  | _ => none

/-- Divide by 10^308 a number of times; zero stays zero. -/
def shrink : Nat → Finite64 → Option Finite64
  | 0, x => some x
  | n + 1, x => if x.isZero then some x else (finite? (x.div (powerOfTen 308))).bind (shrink n)

/-- Multiply by a power of ten. Divisors beyond 10^308 are taken in steps. -/
def scale (x : Finite64) : Int → Option Finite64
  | .ofNat e =>
    if e ≤ 308 then finite? (x.mul (powerOfTen e)) else if x.isZero then some x else none
  | .negSucc e =>
    let steps := e / 308
    (shrink steps x).bind fun y => finite? (y.div (powerOfTen (e + 1 - 308 * steps)))

/-- The number of a numeral with whole digits, fraction digits and an exponent. -/
def decimal? (negative : Bool) (whole fraction : List Char) (exponent : Int) : Option Number :=
  let (s, n) := absorb 0 whole
  let (t, m) := absorb s fraction
  let dropped : Int := whole.length - n
  (scale (Finite64.ofInt t) (dropped - m + exponent)).map fun x => .float ⟨negative, x.units⟩

/-- The number of a numeral of digits alone. -/
def integer? (negative : Bool) (whole : List Char) : Option Number :=
  let n := natOf 0 whole
  if significandLimit ≤ n then decimal? negative whole [] 0
  else if !negative then some (.int n)
  else if n = 0 ∨ Nat.pow 2 63 < n then some (.float ⟨true, (Finite64.ofInt n).units⟩)
  else some (.int (-n))

/-- The parts of a numeral. -/
structure Parts where
  negative : Bool
  whole : List Char
  /-- The digits after a point. -/
  fraction : Option (List Char)
  exponent : Option Int

/-- The number of a numeral, unless it is beyond the format. -/
def Parts.value? (p : Parts) : Option Number :=
  if p.fraction.isNone ∧ p.exponent.isNone then integer? p.negative p.whole
  else decimal? p.negative p.whole (p.fraction.getD []) (p.exponent.getD 0)

/-- The sign at the head, and what follows. -/
def minus : List Char → Bool × List Char
  | '-' :: cs => (true, cs)
  | cs => (false, cs)

/-- The digits after a point at the head, and what follows; a point without digits is no numeral. -/
def fraction? : List Char → Option (Option (List Char) × List Char)
  | '.' :: cs => if (digits cs).1 = [] then none else some (some (digits cs).1, (digits cs).2)
  | cs => some (none, cs)

/-- The exponent after its mark at the head, and what follows; a mark without digits is no
numeral. -/
def exponent? : List Char → Option (Option Int × List Char)
  | [] => some (none, [])
  | c :: cs =>
    if c = 'e' ∨ c = 'E' then
      if (digits (sign cs).2).1 = [] then none
      else
        let n := natOf 0 (digits (sign cs).2).1
        some (some (if (sign cs).1 then -(n : Int) else n), (digits (sign cs).2).2)
    else some (none, c :: cs)

/-- The longest numeral at the head of a text, and what follows. A leading zero stands alone. -/
def scan? (cs : List Char) : Option (Parts × List Char) :=
  let whole := (digits (minus cs).2).1
  if whole = [] ∨ (whole.head? = some '0' ∧ whole ≠ ['0']) then none
  else
    (fraction? (digits (minus cs).2).2).bind fun f =>
      (exponent? f.2).map fun e => (⟨(minus cs).1, whole, f.1, e.1⟩, e.2)

theorem length_digits (cs : List Char) :
    (digits cs).1.length + (digits cs).2.length = cs.length := by
  rw [← List.length_append, digits, List.takeWhile_append_dropWhile]

theorem length_minus_le (cs : List Char) : (minus cs).2.length ≤ cs.length := by
  unfold minus; split <;> simp

theorem length_sign_le (cs : List Char) : (sign cs).2.length ≤ cs.length := by
  unfold sign; split <;> simp

theorem length_fraction?_le {cs : List Char} {p : Option (List Char) × List Char}
    (h : fraction? cs = some p) :
    p.2.length ≤ cs.length := by
  unfold fraction? at h
  split at h
  case h_1 cs =>
    split at h
    · cases h
    · cases h
      have := length_digits cs
      simp only [List.length_cons]
      omega
  case h_2 => cases h; exact Nat.le_refl _

theorem length_exponent?_le {cs : List Char} {p : Option Int × List Char}
    (h : exponent? cs = some p) :
    p.2.length ≤ cs.length := by
  unfold exponent? at h
  split at h
  · cases h; exact Nat.le_refl _
  case h_2 c cs =>
    split at h
    · have hs := length_sign_le cs
      have hd := length_digits (sign cs).2
      split at h
      · cases h
      · cases h
        simp only [List.length_cons]
        omega
    · cases h; exact Nat.le_refl _

/-- A numeral is not empty. -/
theorem length_scan?_lt {cs : List Char} {p : Parts × List Char} (h : scan? cs = some p) :
    p.2.length < cs.length := by
  simp only [scan?] at h
  have hm := length_minus_le cs
  have hd := length_digits (minus cs).2
  split at h
  · cases h
  · rename_i hw
    obtain ⟨f, hf, h⟩ := Option.bind_eq_some_iff.1 h
    obtain ⟨e, he, rfl⟩ := Option.map_eq_some_iff.1 h
    have h1 := length_fraction?_le hf
    have h2 := length_exponent?_le he
    have h3 : 0 < (digits (minus cs).2).1.length := List.length_pos_iff.2 fun hn => hw (Or.inl hn)
    simp only
    omega

end Numeral
end Json
end PageBuilder
