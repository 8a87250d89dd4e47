import SlideMerge.Placeholder.DateText
import SlideMerge.Sheet.Snapshot

/-!
# Month and year of a cell

The month and the year of a cell come from the first of these that has them: a content that is a
date, a content that is a number, read as a date serial, and the display text, read as a date text.
They are written in one of three forms.
-/

namespace SlideMerge.Placeholder

open Text Numeric Calendar Sheet

/-- The text that stands for a missing value. -/
def notAvailable : String := "N/A"

/-- The forms in which month and year are written. -/
inductive MonthYearFormat
  /-- The short name of the month, as in `Mar 2024`. -/
  | short
  /-- The full name of the month, as in `March 2024`. -/
  | long
  /-- The number of the month, as in `03/2024`. -/
  | numeric
  deriving DecidableEq, Repr

/-- Why month and year cannot be written. -/
inductive MonthYearFault
  | unknownFormat (name : String)
  | noSuchMonth
  | value (fault : WriteFault)
  deriving DecidableEq, Repr

def MonthYearFault.message : MonthYearFault → String
  | unknownFormat name => s!"{quotedString name} is not a valid MonthYearFormat"
  | noSuchMonth => "list index out of range"
  | value fault => fault.message

namespace MonthYearFormat

/-- The name of a form, which shows its pattern. -/
def name : MonthYearFormat → String
  | short => "Mon YYYY"
  | long => "MMMM YYYY"
  | numeric => "MM/YYYY"

def ofName? (s : String) : Option MonthYearFormat :=
  [short, long, numeric].find? fun f => f.name = s

/-- The form with a given name, or the failure that there is none. -/
def ofName (s : String) : Except MonthYearFault MonthYearFormat :=
  match ofName? s with
  | some f => .ok f
  | none => .error (.unknownFormat s)

@[simp] theorem ofName?_name (f : MonthYearFormat) : ofName? f.name = some f := by
  cases f <;> decide

end MonthYearFormat

/-- The name of a month, counted from 1. Numbers from 0 down count back from December. -/
def monthNameOf (month : Int) : Except MonthYearFault (List Char) :=
  if -11 ≤ month ∧ month ≤ 12 then .ok (monthName (((month - 1) % 12).toNat + 1))
  else .error .noSuchMonth

/-- Writes a month and a year, the year in at least four characters. -/
def formatMonthYear (month year : Int) (format : MonthYearFormat) :
    Except MonthYearFault (List Char) := do
  let year := paddedDecimalInt 4 year
  match format with
  | .numeric => .ok (paddedDecimalInt 2 month ++ '/' :: year)
  | .long => .ok ((← monthNameOf month) ++ ' ' :: year)
  | .short => .ok (shortName (← monthNameOf month) ++ ' ' :: year)

/-- Writes a month and a year in the form of the given name. -/
def formatMonthYearNamed (month year : Int) (format : String) :
    Except MonthYearFault (List Char) := do
  formatMonthYear month year (← MonthYearFormat.ofName format)

/-- The date that a content is or denotes as a serial. A truth value denotes none. -/
def dateOfValue (system : DateSystem) : Value → Except WriteFault (Option Date)
  | .dateTime t => .ok (some t.date)
  | .date d => .ok (some d)
  | .integer n => Option.map (·.date) <$> decodeSerial system (.integer n)
  | .real x => Option.map (·.date) <$> decodeSerial system (.real x)
  | _ => .ok none

/-- The month and the year of a cell. -/
def monthYearOf (system : DateSystem) : Option Cell → Except WriteFault (Option (Nat × Nat))
  | none => .ok none
  | some cell =>
    match cell.value with
    | none => .ok none
    | some value => do
      match ← dateOfValue system value with
      | some d => .ok (some (d.month, d.year))
      | none => readDateText <$> cell.displayText

/-- The month and the year of a cell as a function writes them, or `N/A`. -/
def monthYearTextBy (write : Nat → Nat → Except MonthYearFault (List Char)) (system : DateSystem)
    (cell : Option Cell) : Except MonthYearFault String := do
  match ← (monthYearOf system cell).mapError .value with
  | some (month, year) => String.ofList <$> write month year
  | none => .ok notAvailable

def monthYearText (system : DateSystem) (cell : Option Cell) (format : MonthYearFormat) :
    Except MonthYearFault String :=
  monthYearTextBy (formatMonthYear · · format) system cell

/-- The month and the year of a cell in the form of the given name. The name matters only if the
cell has a month and a year. -/
def monthYearTextNamed (system : DateSystem) (cell : Option Cell) (format : String) :
    Except MonthYearFault String :=
  monthYearTextBy (formatMonthYearNamed · · format) system cell

end SlideMerge.Placeholder
