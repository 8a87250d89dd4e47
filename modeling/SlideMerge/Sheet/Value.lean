import SlideMerge.Calendar.Time
import SlideMerge.Numeric.Decimal.Shortest
import SlideMerge.Numeric.Numeral

/-!
# Cell values

What a cell of a spreadsheet holds. An integer and a double of the same value are different
values, and a date is different from the point in time at which it begins.
-/

namespace SlideMerge.Sheet

open Numeric Calendar

/-- The content of a cell that is not empty. -/
inductive Value
  | text (s : String)
  | logical (b : Bool)
  | integer (n : Int)
  | real (x : Double)
  | dateTime (t : DateTime)
  | date (d : Date)
  | time (t : TimeOfDay)
  | duration (d : Duration)
  /-- A value of no known kind, of which only its text can be used. -/
  | other (text : String)
  deriving DecidableEq

/-- The text of a value when no number format applies. An integer has one even if it is too long to
be written. -/
def Value.plainText : Value → List Char
  | text s => s.toList
  | logical true => ['T', 'r', 'u', 'e']
  | logical false => ['F', 'a', 'l', 's', 'e']
  | integer n => decimalInt n
  | real x => x.text
  | dateTime t => t.text ' '
  | date d => d.text
  | time t => t.text
  | duration d => d.text
  | other s => s.toList

/-- Whether the text of a value can be written, which an integer of too many digits forbids. -/
def Value.isWritable : Value → Bool
  | integer n => hasShortText n
  | _ => true

/-- The text of a value when no number format applies, if it can be written. -/
def Value.write (v : Value) : Except WriteFault (List Char) :=
  if v.isWritable then .ok v.plainText else .error .tooManyDigits

end SlideMerge.Sheet
