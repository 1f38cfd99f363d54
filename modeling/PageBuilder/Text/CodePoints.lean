import PageBuilder.Number.Numeral
import PageBuilder.Text.Split

/-!
# Properties of characters

The Unicode Character Database gives properties to ranges of code points. Long tables are kept as
rows of text: the words in a row are hexadecimal numbers. A set of characters lists by turns how
many code points are passed over and how many belong to it (`CodeSet.ofRows`); a table of sequences
gives a code point with a colon, and then what stands for it and for each of those that follow it,
the parts of a sequence joined by plus signs (`Sequences.ofRows`).
-/

namespace PageBuilder
namespace Text

/-- The words of a row. -/
def words (row : String) : List (List Char) := (split ' ' row.toList).filter fun w => w ≠ []

/-- The number that hexadecimal digits spell. -/
def hexNumber (cs : List Char) : Nat :=
  cs.foldl (fun n c => n * 16 + (Numeral.hexDigit? c).getD 0) 0

/-- The numbers of some rows. -/
def hexNumbers (rows : List String) : List Nat := rows.flatMap fun row => (words row).map hexNumber

/-- The code points from `first` to `last`. -/
structure CodeRange where
  first : Nat
  last : Nat

/-- The range holds the character. -/
def CodeRange.contains (r : CodeRange) (c : Char) : Bool := r.first ≤ c.toNat && c.toNat ≤ r.last

/-- A set of characters. -/
abbrev CodeSet := List CodeRange

namespace CodeSet

/-- The ranges from a code point on, as numbers passed over and numbers that belong to the set. -/
def ofCounts (start : Nat) : List Nat → CodeSet
  | skipped :: count :: rest =>
    ⟨start + skipped, start + skipped + count - 1⟩ :: ofCounts (start + skipped + count) rest
  | _ => []

/-- The set that some rows list. -/
def ofRows (rows : List String) : CodeSet := ofCounts 0 (hexNumbers rows)

/-- The character belongs to the set. -/
def contains (s : CodeSet) (c : Char) : Bool := s.any fun r => r.contains c

end CodeSet

/-- The code points `first`, `first + step`, ..., `last`, each of which moves by `shift`. -/
structure CodeShift where
  first : Nat
  last : Nat
  step : Nat
  shift : Int

namespace CodeShift

/-- The code point is one of those that move. -/
def covers (s : CodeShift) (n : Nat) : Bool :=
  s.first ≤ n && n ≤ s.last && (n - s.first) % s.step == 0

/-- The character after the move. -/
def apply (s : CodeShift) (c : Char) : Char := Char.ofNat (c.toNat + s.shift).toNat

end CodeShift

/-- What stands for single characters. -/
abbrev Sequences := List (Nat × List Char)

namespace Sequences

/-- The sequence that a word spells. -/
def ofWord (word : List Char) : List Char := (split '+' word).map fun w => Char.ofNat (hexNumber w)

/-- The entries of some words, from a code point on. -/
def ofWords : Nat → List (List Char) → Sequences
  | _, [] => []
  | n, word :: rest =>
    if word.getLast? = some ':' then ofWords (hexNumber word.dropLast) rest
    else (n, ofWord word) :: ofWords (n + 1) rest

/-- The table that some rows list; each row begins with a code point. -/
def ofRows (rows : List String) : Sequences := rows.flatMap fun row => ofWords 0 (words row)

/-- What stands for a character. -/
def get? (t : Sequences) (c : Char) : Option (List Char) :=
  (t.find? fun e => e.1 == c.toNat).map Prod.snd

end Sequences

example : (CodeSet.ofRows ["41 1a 6 1a"]).contains 'g' = true := by decide

example : (Sequences.ofRows ["fb00: 66+66 66+69"]).get? 'ﬁ' = some ['f', 'i'] := by decide

end Text
end PageBuilder
