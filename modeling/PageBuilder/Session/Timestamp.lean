import PageBuilder.Number.Numeral
import PageBuilder.Text.Blank

/-!
# Timestamps

A timestamp is a date, a `T` or a space, a time of day, and the offset from universal time:
`2024-02-29T12:30:00.5+01:00`. Numbers may have fewer digits than usual, and blanks may stand
between the parts. The date must be one of the calendar.
-/

namespace PageBuilder
namespace Timestamp

/-- Drop the blanks at the head. -/
def skip (cs : List Char) : List Char := cs.dropWhile Text.isBlank

/-- The number at the head, of at most `width` digits, and what follows. -/
def digits? (width : Nat) (cs : List Char) : Option (Nat × List Char) :=
  let ds := (cs.take width).takeWhile Char.isDigit
  if ds = [] then none else some (Numeral.natOf 0 ds, cs.drop ds.length)

/-- A part of a timestamp after some blanks. It lies between two bounds. -/
def part? (low high : Nat) (cs : List Char) : Option (Nat × List Char) :=
  (digits? 2 (skip cs)).filter fun p => low ≤ p.1 && p.1 ≤ high

/-- What follows a mark at the head, perhaps after some blanks. -/
def after? (mark : Char) (cs : List Char) : Option (List Char) :=
  match skip cs with
  | c :: rest => if c = mark then some rest else none
  | [] => none

/-- A year. Only with a sign it may have more than four digits. -/
def year? (cs : List Char) : Option (Int × List Char) :=
  match skip cs with
  | '-' :: rest => (digits? rest.length rest).map fun p => (-(p.1 : Int), p.2)
  | '+' :: rest => (digits? rest.length rest).map fun p => ((p.1 : Int), p.2)
  | rest => (digits? 4 rest).map fun p => ((p.1 : Int), p.2)

/-- A year with a 29th of February. -/
def isLeapYear (year : Int) : Bool := year % 4 == 0 && (year % 100 != 0 || year % 400 == 0)

/-- The number of days of a month. -/
def daysIn (year : Int) (month : Nat) : Nat :=
  if month = 2 then (if isLeapYear year then 29 else 28)
  else if month = 4 ∨ month = 6 ∨ month = 9 ∨ month = 11 then 30
  else 31

/-- The last year before or after year zero that dates have. -/
def yearLimit : Int := 262142

/-- What follows a date at the head. -/
def afterDate? (cs : List Char) : Option (List Char) := do
  let (year, cs) ← year? cs
  let (month, cs) ← part? 1 12 (← after? '-' cs)
  let (day, cs) ← part? 1 31 (← after? '-' cs)
  if day ≤ daysIn year month ∧ -yearLimit ≤ year ∧ year ≤ yearLimit then some cs else none

/-- What follows the fraction of a second at the head, if there is one. -/
def afterFraction? : List Char → Option (List Char)
  | '.' :: cs => (digits? 9 cs).map fun p => p.2.dropWhile Char.isDigit
  | cs => some cs

/-- What follows a time of day at the head. A second may be a leap second. -/
def afterTime? (cs : List Char) : Option (List Char) := do
  let (_, cs) ← part? 0 23 cs
  let (_, cs) ← part? 0 59 (← after? ':' cs)
  let (_, cs) ← part? 0 60 (← after? ':' cs)
  (afterFraction? cs).map skip

/-- Two digits at the head, a number up to a bound. -/
def twoDigits? (high : Nat) : List Char → Option (List Char)
  | a :: b :: cs => if a.isDigit ∧ b.isDigit ∧ Numeral.natOf 0 [a, b] ≤ high then some cs else none
  | _ => none

/-- What separates the hours of an offset from the minutes. -/
def isOffsetGap (c : Char) : Bool := c == ':' || Text.isBlank c

/-- What follows an offset at the head: `Z`, `UTC`, or a sign with hours and minutes. -/
def afterOffset? : List Char → Option (List Char)
  | [] => none
  | c :: cs =>
    if c = 'Z' ∨ c = 'z' then some cs
    else if (c :: cs.take 2).map Char.toUpper = ['U', 'T', 'C'] then some (cs.drop 2)
    else if c = '+' ∨ c = '-' ∨ c = '−' then
      (twoDigits? 23 cs).bind fun cs => twoDigits? 59 (cs.dropWhile isOffsetGap)
    else none

/-- The text is a timestamp. -/
def isValid (text : String) : Bool :=
  match afterDate? text.toList with
  | some (c :: cs) =>
    (c == 'T' || c == 't' || c == ' ') && ((afterTime? cs).bind afterOffset?).any fun rest =>
      skip rest = []
  | _ => false

example :
    isValid "2024-02-29T12:30:00.5+01:00" = true ∧
      isValid "2023-02-29T12:30:00Z" = false := by decide

end Timestamp
end PageBuilder
