import SlideMerge.Numeric.Double
import SlideMerge.Numeric.Numeral

/-!
# Reading decimals

A decimal numeral is a sign, digits with at most one point among them, and an exponent of ten
after `e` or `E`. Its double is the one nearest to its exact value.
-/

namespace SlideMerge.Numeric

open Text

/-- A decimal `± digits · 10^scale`. -/
structure DecimalNumeral where
  negative : Bool
  digits : Nat
  scale : Int
  deriving DecidableEq, Repr

namespace DecimalNumeral

/-- The double nearest to the numeral. Numerals of `10^400` and more are infinite and those below
`10^-400` are zero without a look at their digits, so that a long exponent costs nothing. -/
def toDouble (d : DecimalNumeral) : Double :=
  let magnitude := (decimal d.digits).length + d.scale
  if d.digits = 0 then .zero d.negative
  else if 400 < magnitude then .infinite d.negative
  else if magnitude < -400 then .zero d.negative
  else
    let q : Rat := d.digits * 10 ^ d.scale
    .ofRat (if d.negative then -q else q) d.negative

/-- The exponent part of a numeral: nothing, or a mark, a sign and digits up to the end. -/
def readExponent : List Char → Option Int
  | [] => some 0
  | mark :: rest =>
    if mark = 'e' ∨ mark = 'E' then
      let (negative, unsigned) := takeSign rest
      match takeDigits unsigned with
      | (d :: ds, []) =>
        let n : Int := ofDigits (d :: ds)
        some (if negative then -n else n)
      | _ => none
    else none

/-- The numeral that a whole text is, white space around it apart. -/
def read (text : List Char) : Option DecimalNumeral :=
  let (negative, unsigned) := takeSign (trimWhiteSpace text)
  let (whole, rest) := takeDigits unsigned
  let (fraction, rest) :=
    match rest with
    | '.' :: rest => takeDigits rest
    | rest => ([], rest)
  if whole.isEmpty && fraction.isEmpty then none
  else do
    let exponent ← readExponent rest
    some ⟨negative, ofDigits (whole ++ fraction), exponent - fraction.length⟩

end DecimalNumeral

/-- The double that a text writes: a numeral, or the name of a number that is not finite. -/
def Double.ofText? (text : List Char) : Option Double :=
  if text = ['i', 'n', 'f'] then some (.infinite false)
  else if text = ['-', 'i', 'n', 'f'] then some (.infinite true)
  else if text = ['n', 'a', 'n'] then some .nan
  else (DecimalNumeral.read text).map DecimalNumeral.toDouble

end SlideMerge.Numeric
