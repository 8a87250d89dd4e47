import SlideMerge.Numeric.Decimal.Fixed

/-!
# Decimals with a fixed number of digits

A positive magnitude is rounded to `d · 10^(e - places)` where `d` has `places + 1` digits, so that
one digit stands before the point of the mantissa. Rounding may carry into the next power of ten.
-/

namespace SlideMerge.Numeric

/-- The decimal logarithm of a positive rational, rounded down. -/
def log10Floor (q : Rat) : Int :=
  let estimate : Int := ((decimal q.num.natAbs).length : Int) - ((decimal q.den).length : Int)
  if q < 10 ^ estimate then estimate - 1 else estimate

/-- A mantissa of a fixed number of digits and the exponent of its first digit. -/
structure Scientific where
  digits : Nat
  exponent : Int
  deriving DecidableEq, Repr

namespace Scientific

/-- The magnitude rounded to `places` digits after the first. -/
def ofRat (places : Nat) (q : Rat) : Scientific :=
  if q = 0 then ⟨0, 0⟩
  else
    let exponent := log10Floor q
    let digits := (roundEven (q / 10 ^ (exponent - places))).toNat
    if digits = Nat.pow 10 (places + 1) then ⟨Nat.pow 10 places, exponent + 1⟩
    else ⟨digits, exponent⟩

/-- The mantissa, with a point after its first digit. -/
def mantissaText (places : Nat) (s : Scientific) : List Char :=
  fixedText places false s.digits

end Scientific

/-- The digits of an exponent after its sign, at least two. -/
def exponentDigits (exponent : Int) : List Char :=
  paddedDecimal 2 exponent.natAbs

/-- The sign of an exponent, which is always written. -/
def exponentSign (exponent : Int) : Char :=
  if exponent < 0 then '-' else '+'

/-- The text without the zeros at its end, and without the point if that then ends it. -/
def stripFraction (cs : List Char) : List Char :=
  let rest := cs.reverse.dropWhile (· == '0')
  match rest with
  | '.' :: whole => whole.reverse
  | _ => rest.reverse

/-- A magnitude in the given number of significant digits: positional if the exponent of the first
digit is at least `-4` and less than that number, otherwise a mantissa and an exponent after the
mark. Zeros at the end of the fraction are dropped. -/
def significantText (precision : Nat) (mark : Char) (q : Rat) : List Char :=
  let places := precision - 1
  let s := Scientific.ofRat places q
  if -4 ≤ s.exponent ∧ s.exponent < precision then
    let decimals := ((places : Int) - s.exponent).toNat
    if decimals = 0 then fixedText 0 false s.digits
    else stripFraction (fixedText decimals false s.digits)
  else
    let mantissa := if places = 0 then fixedText 0 false s.digits
      else stripFraction (s.mantissaText places)
    mantissa ++ mark :: exponentSign s.exponent :: exponentDigits s.exponent

end SlideMerge.Numeric
