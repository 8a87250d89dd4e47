import SlideMerge.Format.Kind
import SlideMerge.Workbook.Stored
import SlideMerge.Workbook.Timestamp

/-!
# The current workbook format

Contents are texts. A number is an integer unless it has a point or an exponent, and a number whose
format is for dates is a serial. A content that cannot be read makes the whole workbook unreadable,
on whichever worksheet it is.
-/

namespace SlideMerge.Workbook

open Text Numeric Format Sheet

/-- What stands for a serial that the calendar does not reach. -/
def valueError : String := "#VALUE!"

/-- The number that a text writes. -/
def readNumber? (text : String) : Option Number :=
  let cs := text.toList
  if cs.any fun c => c == '.' || c == 'e' || c == 'E' then
    (DecimalNumeral.read cs).map fun d => .real d.toDouble
  else
    match readInteger text with
    | .ok n => some (.integer n)
    | .error _ => none

/-- The value of a serial whose format is for dates. -/
def serialValue (system : DateSystem) (format : List Char) (serial : Number) : Value :=
  let value : Option Value :=
    if isDurationCode format then (decodeDuration? serial).map .duration
    else
      (decode? system serial).map fun
        | .time t => .time t
        | .dateTime t => .dateTime t
  value.getD (.text valueError)

def numberValue (system : DateSystem) (format : List Char) (n : Number) : Value :=
  if isDateCode format then serialValue system format n else n.toValue

/-- The value of a content; the outer level tells whether it can be read at all. -/
def StoredCell.currentValue? (system : DateSystem) (c : StoredCell) : Option (Option Value) :=
  match c.kind, c.content with
  | .blank, _ => some none
  | _, none => some none
  | .text, some s => some (some (.text s))
  | kind, some s =>
    if s = "" then some none
    else
      match kind with
      | .number =>
        (readNumber? s).map fun n => some (numberValue system c.format.toList n)
      | .logical =>
        match readInteger s with
        | .ok n => some (some (.logical (n ≠ 0)))
        | .error _ => none
      | .timestamp => (readTimestamp? s.toList).map some
      | _ => some (some (.text s))

/-- The cells of a worksheet with their values. -/
def StoredSheet.readCurrent? (system : DateSystem) (sheet : StoredSheet) :
    Option (List ReadCell) :=
  sheet.cells.mapM fun c => (c.currentValue? system).map fun value => ⟨c.place, value, c.format⟩

end SlideMerge.Workbook
