import SlideMerge.Format.Kind
import SlideMerge.Workbook.Stored
import SlideMerge.Numeric.Decimal.Reader

/-!
# The legacy workbook format

Contents are typed, and every number is a double. A number whose format is for dates is a serial,
also below 1, and one that the calendar does not reach stays a number. Other integral numbers are
taken for integers.
-/

namespace SlideMerge.Workbook

open Text Numeric Format Sheet

/-- The kinds of contents in the legacy format. -/
inductive LegacyKind
  | empty
  | text
  | number
  | date
  | logical
  | error
  | blank
  /-- A kind that is not known. -/
  | other
  deriving DecidableEq, Repr

def LegacyKind.ofNumber (n : Int) : LegacyKind :=
  if n = 0 then empty
  else if n = 1 then text
  else if n = 2 then number
  else if n = 3 then date
  else if n = 4 then logical
  else if n = 5 then error
  else if n = 6 then blank
  else other

def errorTexts : List (Int × String) :=
  [(0, "#NULL!"), (7, "#DIV/0!"), (15, "#VALUE!"), (23, "#REF!"), (29, "#NAME?"), (36, "#NUM!"),
   (42, "#N/A")]

/-- The text of an error that is not known. -/
def unknownError : String := "#ERR"

/-- The integer that a value is equal to. -/
def integerOf? : Value → Option Int
  | .integer n => some n
  | .logical b => some b.toInt
  | .real x => x.toInt?
  | _ => none

/-- Whether a content counts as true: all but zero and the empty text do. -/
def isTrue : Option Value → Bool
  | none => false
  | some (.text s) => s ≠ ""
  | some (.logical b) => b
  | some (.integer n) => n ≠ 0
  | some (.real x) => !x.isZero
  | some (.duration d) => d.micros ≠ 0
  | some _ => true

/-- The point in time of a serial. -/
def dateOfSerial (system : DateSystem) (value : Value) : Value :=
  match value.number?.bind (legacyDecode? system) with
  | some t => .dateTime t
  | none => value

/-- The value of a content of a given kind. -/
def legacyValue? (system : DateSystem) (kind : LegacyKind) (content : Option Value) :
    Option Value :=
  match kind with
  | .empty => none
  | .blank => none
  | .date => content.map (dateOfSerial system)
  | .logical => some (.logical (isTrue content))
  | .error =>
    some (.text (((content.bind integerOf?).bind fun code => errorTexts.lookup code).getD
      unknownError))
  | .number => content.map fun value => ((integerOf? value).map .integer).getD value
  | .text => content
  | .other => content

/-- The item at a position; negative positions count from the end. -/
def itemAt? {α : Type} (items : List α) (position : Int) : Option α :=
  if 0 ≤ position then items[position.toNat]?
  else if -position ≤ items.length then items[(items.length + position).toNat]?
  else none

/-- The code of a cell's number format. A cell names the position of a style, a style the key of a
format, and a format has a code. Where one of these is missing, the general format applies. -/
def legacyFormat (styles : List Int) (formats : List (Int × Option String)) (position : Int) :
    String :=
  let code := do (← formats.reverse.lookup (← itemAt? styles position))
  codeOrGeneral (code.getD "")

/-- The typed content of a stored cell. -/
def StoredCell.legacyContent (c : StoredCell) : LegacyKind × Option Value :=
  match c.kind, c.content with
  | .number, some s =>
    let x := (Double.ofText? s.toList).getD .nan
    (if isLegacyDateCode c.format.toList then .date else .number, some (.real x))
  | .logical, some s => (.logical, (readInteger s).toOption.map .integer)
  | .error, some s => (.error, (readInteger s).toOption.map .integer)
  | .blank, _ => (.blank, none)
  | _, some s => (.text, some (.text s))
  | _, none => (.blank, none)

/-- The cells of a worksheet with their values. -/
def StoredSheet.readLegacy (system : DateSystem) (sheet : StoredSheet) : List ReadCell :=
  sheet.cells.map fun c =>
    let (kind, content) := c.legacyContent
    ⟨c.place, legacyValue? system kind content, codeOrGeneral c.format⟩

end SlideMerge.Workbook
