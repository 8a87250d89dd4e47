import SlideMerge.Numeric.Numeral
import SlideMerge.Text.UpperCase

/-!
# Cell references

A reference names a cell by the letters of its column and the number of its row, as in `B2`. The
columns are numbered from 0 and written in the letters `A` to `Z` as digits of value 1 to 26, so
there is no digit zero: `Z` is followed by `AA`. Rows are numbered from 1. A written reference may
mark column and row as absolute with `$`; the marks carry no meaning here.
-/

namespace SlideMerge.Sheet

open Text Numeric

/-- The letters of the number `n`, counted from 1 for `A`; none for 0. -/
def lettersOfCount : Nat → List Char
  | 0 => []
  | n + 1 => lettersOfCount (n / 26) ++ [Char.ofNat ('A'.toNat + n % 26)]
termination_by n => n
decreasing_by omega

/-- The letters of a column, counted from 0. Columns before the first have none. -/
def columnLetters (column : Int) : List Char :=
  lettersOfCount (column + 1).toNat

/-- The value of a character as a digit of a column: 1 for `A` to 26 for `Z`. Other characters
count by their distance from these. -/
def letterValue (c : Char) : Int :=
  (c.toNat : Int) - 'A'.toNat + 1

/-- The column that letters of either case denote, counted from 0. -/
def columnIndex (letters : List Char) : Int :=
  (upper letters).foldl (fun acc c => acc * 26 + letterValue c) 0 - 1

/-- The number of columns that at most three letters can name. -/
def columnLimit : Nat := 18278

/-- The name of a cell by column, counted from 0, and row, counted from 1. -/
def cellName (row column : Int) : List Char :=
  columnLetters column ++ decimalInt row

/-- The place of a cell: a column that at most three letters name, and a row from 1 on. -/
structure Reference where
  column : Nat
  row : Nat
  column_lt : column < columnLimit
  row_pos : 0 < row
  deriving DecidableEq

/-- Why a text is no reference. -/
inductive ReferenceFault
  | malformed (text : String)
  | rowTooLong (digits : Nat)
  deriving DecidableEq, Repr

def ReferenceFault.message : ReferenceFault → String
  | malformed text => s!"Invalid cell notation: {text}"
  | rowTooLong digits => (IntegerFault.tooManyDigits digits).message

namespace Reference

/-- The letters of the column. -/
def letters (r : Reference) : List Char :=
  columnLetters r.column

/-- The canonical text: upper-case letters, no marks, no leading zeros. -/
def text (r : Reference) : List Char :=
  cellName r.row r.column

/-- The canonical text as a string. -/
def name (r : Reference) : String :=
  String.ofList r.text

def isColumnLetter (c : Char) : Bool :=
  c.isAlpha

/-- The text without an absolute mark at its beginning. -/
def dropMark : List Char → List Char
  | '$' :: rest => rest
  | cs => cs

/-- The reference with these letters and this row, if both are in range. -/
def ofParts? (letters : List Char) (row : Nat) : Option Reference :=
  let column := (columnIndex letters).toNat
  if h : column < columnLimit ∧ 0 < row then some ⟨column, row, h.1, h.2⟩ else none

/-- The reference that a text writes: between blanks, one to three letters and the digits of a row
of at least 1, each after an optional mark. -/
def read (text : String) : Except ReferenceFault Reference :=
  let body := dropMark (trim text.toList)
  let letters := body.takeWhile isColumnLetter
  let digits := dropMark (body.dropWhile isColumnLetter)
  if letters.isEmpty || 3 < letters.length || digits.isEmpty || !digits.all isDigit then
    .error (.malformed text)
  else if maxIntegerDigits < digits.length then
    .error (.rowTooLong digits.length)
  else
    match ofParts? letters (digitsValue digits) with
    | some r => .ok r
    | none => .error (.malformed text)

/-- The canonical text of the reference that a text writes. -/
def normalize (text : String) : Except ReferenceFault String :=
  name <$> read text

end Reference

end SlideMerge.Sheet
