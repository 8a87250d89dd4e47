import SlideMerge.Keyed
import SlideMerge.Sheet.Reference
import SlideMerge.Sheet.Serial

/-!
# Cells and snapshots

A snapshot is the first worksheet of a workbook as it was read: its cells under their canonical
names, in reading order. Looking a cell up brings the written reference into canonical form first,
so an entry under any other key cannot be reached.
-/

namespace SlideMerge.Sheet

open Text Numeric

/-- A cell as it was read. -/
structure Cell where
  /-- The canonical name of its place. -/
  name : String
  /-- Its row, counted from 1. -/
  row : Nat
  /-- Its column, counted from 0. -/
  column : Nat
  /-- Its content; none for an empty cell. -/
  value : Option Value
  /-- The text that the spreadsheet shows for it, if it has been rendered. -/
  shown : Option String
  /-- The code of its number format. -/
  format : String
  deriving DecidableEq

namespace Cell

/-- The text shown for a cell, or the plain text of its content if none has been rendered. -/
def displayText (c : Cell) : Except WriteFault (List Char) :=
  match c.shown, c.value with
  | some s, _ => .ok s.toList
  | none, some v => v.write
  | none, none => .ok []

/-- Whether a cell has no content, or one whose plain text holds blanks only. -/
def isBlank (c : Cell) : Except WriteFault Bool :=
  match c.value with
  | some v => isBlankText <$> v.write
  | none => .ok true

end Cell

/-- The first worksheet of a workbook. -/
structure Snapshot where
  title : String
  cells : Keyed Cell
  system : DateSystem
  deriving DecidableEq

namespace Snapshot

/-- The cell at a written reference; none if nothing was read there. -/
def get (s : Snapshot) (reference : String) : Except ReferenceFault (Option Cell) :=
  s.cells.find? <$> Reference.normalize reference

/-- Whether there is a cell at a written reference. -/
def contains (s : Snapshot) (reference : String) : Except ReferenceFault Bool :=
  Option.isSome <$> s.get reference

/-- The number of cells. -/
def size (s : Snapshot) : Nat :=
  s.cells.length

end Snapshot

end SlideMerge.Sheet
