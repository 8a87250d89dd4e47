import SlideMerge.Numeric.Decimal.Scientific
import SlideMerge.Numeric.Double

/-!
# The shortest decimal of a double

The decimal with the fewest significant digits that reads back as the double, and the nearest of
those. Seventeen digits always read back. A grid of `n` significant digits holds such a decimal if
and only if one of the double's two neighbours on the grid is one.
-/

namespace SlideMerge.Numeric

/-- Digits without trailing zeros, and the exponent of the first digit. -/
structure ShortestDecimal where
  digits : List Char
  exponent : Int
  deriving DecidableEq, Repr

namespace ShortestDecimal

/-- The decimal `units · 10^scale` in this form. -/
def ofUnits (units : Nat) (scale : Int) : ShortestDecimal :=
  let digits := decimal units
  ⟨(digits.reverse.dropWhile (· == '0')).reverse, scale + digits.length - 1⟩

/-- Of the neighbours of `q` on the grid of `10^scale`, the nearest that reads back as `x`. -/
def onGrid? (x : Double) (q : Rat) (scale : Int) : Option Nat :=
  let unit : Rat := 10 ^ scale
  let below := (q / unit).floor.toNat
  let readsBack (units : Nat) : Bool := Double.ofRat (units * unit) false = x
  let nearest := (roundEven (q / unit)).toNat
  let farther := if nearest = below then below + 1 else below
  if readsBack nearest then some nearest
  else if readsBack farther then some farther
  else none

/-- Tries the grids of more and more significant digits. -/
def search (x : Double) (q : Rat) (exponent : Int) : (remaining digits : Nat) → ShortestDecimal
  | 0, digits =>
    let scale := exponent - digits + 1
    ofUnits (roundEven (q / 10 ^ scale)).toNat scale
  | remaining + 1, digits =>
    let scale := exponent - digits + 1
    match onGrid? x q scale with
    | some units => ofUnits units scale
    | none => search x q exponent remaining (digits + 1)

/-- The shortest decimal of a positive double with the value `q`. -/
def ofDouble (x : Double) (q : Rat) : ShortestDecimal :=
  search x q (log10Floor q) 16 1

end ShortestDecimal

/-- How a shortest decimal is laid out: positional, always with a point, from `10^-4` up to below
`10^16`, and otherwise as a mantissa and an exponent of at least two digits after `e`. -/
def ShortestDecimal.text (d : ShortestDecimal) : List Char :=
  let count : Int := d.digits.length
  if -4 ≤ d.exponent ∧ d.exponent < 16 then
    if d.exponent < 0 then
      '0' :: '.' :: (List.replicate (-d.exponent - 1).toNat '0' ++ d.digits)
    else if count ≤ d.exponent + 1 then
      d.digits ++ List.replicate (d.exponent + 1 - count).toNat '0' ++ ['.', '0']
    else
      d.digits.take (d.exponent + 1).toNat ++ '.' :: d.digits.drop (d.exponent + 1).toNat
  else
    let mantissa :=
      match d.digits with
      | first :: second :: rest => first :: '.' :: second :: rest
      | short => short
    mantissa ++ 'e' :: exponentSign d.exponent :: exponentDigits d.exponent

/-- The shortest text that reads back as the double. -/
def Double.text (x : Double) : List Char :=
  match x.toRat? with
  | none =>
    match x with
    | .infinite true => ['-', 'i', 'n', 'f']
    | .infinite false => ['i', 'n', 'f']
    | _ => ['n', 'a', 'n']
  | some q =>
    let sign := if x.signBit then ['-'] else []
    if q = 0 then sign ++ ['0', '.', '0']
    else
      let magnitude := if q < 0 then -q else q
      sign ++ (ShortestDecimal.ofDouble x.abs magnitude).text

end SlideMerge.Numeric
