import SlideMerge.Numeric.Decimal.Scientific
import SlideMerge.Sheet.Value
import SlideMerge.Text.UpperCase

/-!
# The general format

The format of cells that have no other. Integers are written in full, and so are doubles that are
integers below `10^15`. Other doubles get eleven significant digits, in positional notation or with
an exponent after `E`.
-/

namespace SlideMerge.Format

open Numeric Sheet Text

/-- The significant digits of a double in the general format. -/
def generalPrecision : Nat := 11

/-- From this magnitude on, an integral double is written with an exponent. -/
def generalIntegerLimit : Nat := Nat.pow 10 15

/-- The text of a double in the general format. -/
def generalReal (x : Double) : List Char :=
  match x.toInt?, x.toRat? with
  | some n, some q =>
    if n.natAbs < generalIntegerLimit then decimalInt n
    else (if q < 0 then ['-'] else []) ++ significantText generalPrecision 'E' n.natAbs
  | none, some q =>
    if q < 0 then '-' :: significantText generalPrecision 'E' (-q)
    else significantText generalPrecision 'E' q
  | _, none => x.text

/-- The text of a value in the general format. Values that are no numbers have their plain text. An
integer has a text even if it is too long to be written (see `generalText`). -/
def formatGeneral : Value → List Char
  | .logical true => ['T', 'R', 'U', 'E']
  | .logical false => ['F', 'A', 'L', 'S', 'E']
  | .real x => generalReal x
  | value => value.plainText

def generalCode : String := "General"

/-- Whether a code or a section is the keyword of the general format, in any case. -/
def isGeneral (code : List Char) : Bool :=
  lowerAscii code == ['g', 'e', 'n', 'e', 'r', 'a', 'l']

end SlideMerge.Format
