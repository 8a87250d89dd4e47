import SlideMerge.Numeric.Numeral
import SlideMerge.Numeric.Rounding

/-!
# Decimals with a fixed number of places

A magnitude is rounded to a whole number of units `10^-places`, and the units are written with a
point before their last `places` digits. A number of places that is too large for a machine word is
not refused, here or for mantissas.
-/

namespace SlideMerge.Numeric

/-- The number of units `10^-places` nearest to a magnitude. -/
def fixedUnits (places : Nat) (q : Rat) : Nat :=
  (roundEven (q * 10 ^ places)).toNat

/-- The digits before the point of so many units. -/
def wholeDigits (places units : Nat) : List Char :=
  decimal (units / Nat.pow 10 places)

/-- The digits after the point of so many units. -/
def fractionDigits (places units : Nat) : List Char :=
  paddedDecimal places (units % Nat.pow 10 places)

/-- A point and the digits after it; nothing if there are none. -/
def pointed (places units : Nat) : List Char :=
  if places = 0 then [] else '.' :: fractionDigits places units

/-- So many units of `10^-places`, the whole part in groups of three digits if asked for. -/
def fixedText (places : Nat) (grouped : Bool) (units : Nat) : List Char :=
  let whole := wholeDigits places units
  (if grouped then groupThousands whole else whole) ++ pointed places units

end SlideMerge.Numeric
