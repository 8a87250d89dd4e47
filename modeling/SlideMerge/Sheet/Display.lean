import SlideMerge.Format.Kind
import SlideMerge.Format.NumberCode

/-!
# Display texts

The text that a spreadsheet shows for a value with a number format. Texts show themselves and
truth values their names. Dates and times are rendered with a date code, in a default one if the
format is not for dates. Numbers are rendered with a number code. A code that makes no sense for an
infinite or undefined number gives way to the general format; a number that is too large for the
arithmetic of the code, or too long to be written, is an error.
-/

namespace SlideMerge.Sheet

open Numeric Calendar Format

/-- The code of short dates as they are displayed. -/
def shortDateCode : String := "m/d/yy"

/-- The code of short dates as workbooks store it. -/
def storedShortDateCode : String := "mm-dd-yy"

/-- The code that a cell is displayed with; no code and the empty one mean the general format. -/
def displayCode (format : Option String) : String :=
  let code := format.getD generalCode
  let code := if code = "" then generalCode else code
  if code = storedShortDateCode then shortDateCode else code

/-- Renders a point in time with a code, or with the default one if the code is not for dates. -/
def renderDateTime (t : DateTime) (code : List Char) : List Char :=
  formatDateTime t (if isDateCode code then code else shortDateCode.toList)

/-- Whether a code shows numbers in the general format without a look at its sections. -/
def showsGeneral (code : List Char) : Bool :=
  code == ['@'] || isGeneral code

def renderNumber (value : Number) (code : List Char) : Except NumberFault (List Char) :=
  if showsGeneral code then generalText value
  else
    match formatNumber value code with
    | .error .noExponent => generalText value
    | result => result

/-- Renders a value with the code of a number format. -/
def renderWithCode (value : Value) (code : List Char) : Except NumberFault (List Char) :=
  match value with
  | .text s => .ok s.toList
  | .logical _ => .ok (formatGeneral value)
  | .dateTime t => .ok (renderDateTime t code)
  | .date d => .ok (renderDateTime (.ofDate d) code)
  | .time t => .ok (renderDateTime ⟨timeOnlyDate, t⟩ code)
  | .duration d => .ok d.text
  | .integer n => renderNumber (.integer n) code
  | .real x => renderNumber (.real x) code
  | .other s => .ok s.toList

/-- The display text of a value with a number format. -/
def render (value : Value) (format : Option String) : Except NumberFault String :=
  String.ofList <$> renderWithCode value (displayCode format).toList

end SlideMerge.Sheet
