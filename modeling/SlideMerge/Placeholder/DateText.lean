import SlideMerge.Text.Blank
import SlideMerge.Text.DecimalDigit

/-!
# Dates at the beginning of a text

A date text is a month, a day and a year with slashes between them, after any blanks. Month and day
have one or two digits and the year two or four, in any script; what follows the year does not
matter as long as it is no digit. A year of two digits lies in the years from 2000 to 2099.
-/

namespace SlideMerge.Placeholder

open Text

/-- The value of a run of one or two digits that a slash ends, and what follows the slash. -/
def readBeforeSlash (cs : List Char) : Option (Nat × List Char) :=
  let digits := cs.takeWhile isDigit
  match digits.length, cs.dropWhile isDigit with
  | 1, '/' :: rest => some (digitsValue digits, rest)
  | 2, '/' :: rest => some (digitsValue digits, rest)
  | _, _ => none

/-- The year that a run of two or four digits means. -/
def readYear (cs : List Char) : Option Nat :=
  let digits := cs.takeWhile isDigit
  match digits.length with
  | 2 => some (2000 + digitsValue digits)
  | 4 => some (digitsValue digits)
  | _ => none

/-- The month and the year of the date that a text begins with. -/
def readDateText (text : List Char) : Option (Nat × Nat) := do
  let (month, rest) ← readBeforeSlash (trimStart text)
  let (day, rest) ← readBeforeSlash rest
  let year ← readYear rest
  if 1 ≤ month ∧ month ≤ 12 ∧ 1 ≤ day ∧ day ≤ 31 then some (month, year) else none

end SlideMerge.Placeholder
