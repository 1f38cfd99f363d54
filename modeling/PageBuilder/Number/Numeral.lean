import PageBuilder.Number.Binary64
import PageBuilder.Text.Split

/-!
# Reading numbers

Decimal numerals in texts. `Numeral.read` takes an optional sign, digits with an optional point, and
an optional exponent, or one of the words for the infinities and for no number; the number is the
nearest to what is written. `Numeral.natural?` takes an optional plus sign and digits.
-/

namespace PageBuilder
namespace Numeral

/-- The value of a decimal digit. -/
def digitValue (c : Char) : Nat := c.toNat - '0'.toNat

/-- The value of a hexadecimal digit. -/
def hexDigit? (c : Char) : Option Nat :=
  if c.isDigit then some (c.toNat - '0'.toNat)
  else if 'a' ≤ c ∧ c ≤ 'f' then some (c.toNat - 'a'.toNat + 10)
  else if 'A' ≤ c ∧ c ≤ 'F' then some (c.toNat - 'A'.toNat + 10)
  else none

/-- The number that a run of digits spells, continued from `acc`. -/
def natOf (acc : Nat) (digits : List Char) : Nat :=
  digits.foldl (fun n c => n * 10 + digitValue c) acc

/-- The number written by whole digits and fraction digits. -/
def decimal (negative : Bool) (whole fraction : List Char) (exponent : Int) : Binary64 :=
  .ofDecimal negative (natOf (natOf 0 whole) fraction) (exponent - fraction.length)

/-- A sign at the head; plus counts as none. -/
def sign : List Char → Bool × List Char
  | '-' :: cs => (true, cs)
  | '+' :: cs => (false, cs)
  | cs => (false, cs)

/-- The digits at the head and what follows. -/
def digits (cs : List Char) : List Char × List Char :=
  (cs.takeWhile Char.isDigit, cs.dropWhile Char.isDigit)

/-- The fraction digits after a point at the head, if there is one. -/
def fraction : List Char → List Char × List Char
  | '.' :: cs => digits cs
  | cs => ([], cs)

/-- The exponent at the head, if there is one; a mark without digits is no numeral. -/
def exponent? : List Char → Option Int
  | [] => some 0
  | c :: cs =>
    if c = 'e' ∨ c = 'E' then
      let (negative, rest) := sign cs
      match digits rest with
      | (ds@(_ :: _), []) => some (if negative then -(natOf 0 ds : Int) else natOf 0 ds)
      | _ => none
    else none

/-- A numeral after its sign. -/
def unsigned? (negative : Bool) (cs : List Char) : Option Binary64 :=
  let (whole, rest) := digits cs
  let (frac, rest) := fraction rest
  if whole = [] ∧ frac = [] then none
  else (exponent? rest).map fun e => decimal negative whole frac e

/-- The number that a whole text spells. -/
def read (cs : List Char) : Option Binary64 :=
  let (negative, rest) := sign cs
  let word := String.ofList (rest.map Char.toLower)
  if word = "inf" ∨ word = "infinity" then some (.infinite negative)
  else if word = "nan" then some .nan
  else unsigned? negative rest

/-- The natural number below `limit` that a whole text spells. -/
def natural? (limit : Nat) (cs : List Char) : Option Nat :=
  let body := match cs with
    | '+' :: cs => cs
    | cs => cs
  if body ≠ [] ∧ body.all Char.isDigit then
    let n := natOf 0 body
    if n < limit then some n else none
  else none

/-! ### Runs of digits -/

/-- A run of digits with something else behind it is read to its end. -/
theorem digits_append {ds rest : List Char} (hds : ∀ c ∈ ds, c.isDigit = true)
    (hrest : ∀ c ∈ rest.head?, c.isDigit = false) :
    digits (ds ++ rest) = (ds, rest) := by
  unfold digits
  rw [Text.takeWhile_run hds hrest, Text.dropWhile_run hds hrest]

/-- Every text is a run of digits and something else. -/
theorem exists_digits (cs : List Char) :
    ∃ ds rest, cs = ds ++ rest ∧ (∀ c ∈ ds, c.isDigit = true) ∧
      (∀ c ∈ rest.head?, c.isDigit = false) := by
  have hdigits : ∀ c ∈ cs.takeWhile Char.isDigit, c.isDigit = true :=
    List.all_eq_true.mp List.all_takeWhile
  exact ⟨_, _, List.takeWhile_append_dropWhile.symm, hdigits,
    fun _ => Text.eq_false_of_mem_head?_dropWhile⟩

end Numeral
end PageBuilder
