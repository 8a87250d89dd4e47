import SlideMerge.Format.BuiltIn
import SlideMerge.Sheet.Display
import SlideMerge.Sheet.Snapshot

/-!
# Stored workbooks

What a workbook file holds: the date system and the worksheets with their cells, each cell with the
kind and the text of its content and the code of its number format. The two file formats share this
form and differ in how they take the texts.
-/

namespace SlideMerge.Workbook

open Format Sheet

inductive ContentKind
  | number
  | logical
  /-- The value of an error. -/
  | error
  | text
  /-- A text that a formula has computed. -/
  | formulaText
  /-- A date, a time or a duration in letters and digits. -/
  | timestamp
  | blank
  deriving DecidableEq, Repr

/-- A cell as it is stored. -/
structure StoredCell where
  place : Reference
  kind : ContentKind
  /-- The text of the content, if there is any. -/
  content : Option String
  /-- The code of the number format. -/
  format : String
  deriving DecidableEq

/-- A worksheet as it is stored, its cells in any order. -/
structure StoredSheet where
  title : String
  cells : List StoredCell
  deriving DecidableEq

structure StoredWorkbook where
  system : DateSystem
  sheets : List StoredSheet
  deriving DecidableEq

/-- How a cell names its number format. -/
inductive FormatName
  | builtIn (id : Int)
  | custom (code : String)
  deriving DecidableEq, Repr

def FormatName.code : FormatName → String
  | builtIn id => builtInCode id
  | custom code => code

/-- A cell with the value that has been read for it. -/
structure ReadCell where
  place : Reference
  value : Option Value
  format : String
  deriving DecidableEq

/-- Whether a cell comes before another one, or is at the same place: row by row, and in a row
column by column. -/
def ReadCell.isBefore (a b : ReadCell) : Bool :=
  a.place.row < b.place.row || (a.place.row == b.place.row && a.place.column ≤ b.place.column)

/-- The cells in reading order; of several cells at one place the last one counts. -/
def inReadingOrder (cells : List ReadCell) : Keyed ReadCell :=
  Keyed.ofPairs ((cells.mergeSort ReadCell.isBefore).map fun c => (c.place.name, c))

/-- The code of a number format, the general one if it is empty. -/
def codeOrGeneral (code : String) : String :=
  if code = "" then generalCode else code

/-- The cell of a snapshot, with the text that is shown for it. -/
def ReadCell.toCell (c : ReadCell) (value : Value) : Except NumberFault Cell := do
  .ok
    { name := c.place.name
      row := c.place.row
      column := c.place.column
      value := some value
      shown := some (← render value (some c.format))
      format := codeOrGeneral c.format }

/-- The snapshot of a worksheet, of whose cells those with a value are kept. -/
def snapshotOf (title : String) (system : DateSystem) (cells : List ReadCell) :
    Except NumberFault Snapshot := do
  let present := (inReadingOrder cells).filterMap fun (_, c) => c.value.map (c, ·)
  let shown ← present.mapM fun (c, value) => c.toCell value
  .ok ⟨title, shown.map fun c => (c.name, c), system⟩

end SlideMerge.Workbook
