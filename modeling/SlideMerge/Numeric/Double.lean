import SlideMerge.Numeric.Rounding

/-!
# Binary floating-point numbers

The numbers of the binary64 format: `± m · 2^e` with `m < 2^53`, two infinities and a value that
is no number. A finite number is kept in its canonical form, so equal fields mean the same number
(the two zeros are distinct). Arithmetic is exact rational arithmetic followed by one rounding,
`Double.ofRat`: to the nearest number of the format, a tie to the even mantissa.
-/

namespace SlideMerge.Numeric

/-- The canonical pairs of mantissa and exponent: the mantissa has all 53 bits unless the exponent
is the least one. -/
def IsCanonical (mantissa : Nat) (exponent : Int) : Prop :=
  mantissa < Nat.pow 2 53 ∧ -1074 ≤ exponent ∧ exponent ≤ 971 ∧
    (exponent = -1074 ∨ Nat.pow 2 52 ≤ mantissa)

instance (mantissa : Nat) (exponent : Int) : Decidable (IsCanonical mantissa exponent) :=
  inferInstanceAs (Decidable (_ ∧ _))

/-- A binary floating-point number of 64 bits. -/
inductive Double
  | nan
  | infinite (negative : Bool)
  | finite (negative : Bool) (mantissa : Nat) (exponent : Int)
      (canonical : IsCanonical mantissa exponent)
  deriving DecidableEq

namespace Double

/-- Zero of either sign. -/
def zero (negative : Bool) : Double :=
  .finite negative 0 (-1074) (by decide)

/-- The rational number that a finite number stands for. -/
def toRat? : Double → Option Rat
  | nan => none
  | infinite _ => none
  | finite negative mantissa exponent _ =>
    let magnitude : Rat := mantissa * 2 ^ exponent
    some (if negative then -magnitude else magnitude)

/-- The number `± m · 2^e` if that is a canonical form or rounding has carried the mantissa to
`2^53`; anything else lies beyond the largest finite number. -/
def ofMantissa (negative : Bool) (mantissa : Nat) (exponent : Int) : Double :=
  if h : IsCanonical mantissa exponent then .finite negative mantissa exponent h
  else if h : mantissa = Nat.pow 2 53 ∧ IsCanonical (Nat.pow 2 52) (exponent + 1) then
    .finite negative (Nat.pow 2 52) (exponent + 1) h.2
  else .infinite negative

/-- The binary logarithm of a positive rational, rounded down. -/
def log2Floor (q : Rat) : Int :=
  let estimate : Int := (q.num.natAbs.log2 : Int) - (q.den.log2 : Int)
  if q < 2 ^ estimate then estimate - 1 else estimate

/-- The exponent of the format's grid around a positive rational. -/
def gridExponent (q : Rat) : Int :=
  max (-1074) (log2Floor q - 52)

/-- The number nearest to `q`, a tie to the even mantissa; magnitudes that round beyond the
largest finite number become infinite. A zero gets the sign `zeroNegative`. -/
def ofRat (q : Rat) (zeroNegative : Bool) : Double :=
  if q = 0 then zero zeroNegative
  else
    let magnitude := if q < 0 then -q else q
    let exponent := gridExponent magnitude
    ofMantissa (decide (q < 0)) (roundEven (magnitude / 2 ^ exponent)).toNat exponent

/-- The number nearest to an integer, if that is finite. -/
def ofInt? (n : Int) : Option Double :=
  match ofRat n false with
  | x@(.finite ..) => some x
  | _ => none

/-- The sign bit of a number; that of `nan` is not kept. -/
def signBit : Double → Bool
  | nan => false
  | infinite negative => negative
  | finite negative _ _ _ => negative

/-- Below zero. -/
def isNegative : Double → Bool
  | nan => false
  | infinite negative => negative
  | finite negative mantissa _ _ => negative && mantissa != 0

/-- Zero of either sign. -/
def isZero : Double → Bool
  | finite _ mantissa _ _ => mantissa == 0
  | _ => false

/-- Less than an integer. -/
def isLess (limit : Int) : Double → Bool
  | nan => false
  | infinite negative => negative
  | x@(finite ..) => x.toRat?.any fun (q : Rat) => q < limit

/-- The number without its sign. -/
def abs : Double → Double
  | nan => nan
  | infinite _ => infinite false
  | finite _ mantissa exponent h => finite false mantissa exponent h

/-- The product, rounded. An infinite factor makes it infinite unless the other is zero. -/
def mul (x y : Double) : Double :=
  let negative := x.signBit != y.signBit
  match x.toRat?, y.toRat? with
  | some p, some q => ofRat (p * q) negative
  | _, _ => if x = nan ∨ y = nan ∨ x.isZero ∨ y.isZero then nan else infinite negative

/-- The quotient by a positive finite number, rounded. -/
def divPos (x y : Double) : Double :=
  match x.toRat?, y.toRat? with
  | some p, some q => ofRat (p / q) x.signBit
  | _, _ => x

/-- The greatest integer that is not above a finite number. -/
def floor? (x : Double) : Option Int :=
  x.toRat?.map Rat.floor

/-- The integer that a number is, if it is one. -/
def toInt? (x : Double) : Option Int :=
  match x.toRat? with
  | some q => if q.den = 1 then some q.num else none
  | none => none

@[simp] theorem toRat?_nan : toRat? nan = none := rfl

@[simp] theorem toRat?_infinite (negative : Bool) : toRat? (infinite negative) = none := rfl

@[simp] theorem isNegative_abs (x : Double) : x.abs.isNegative = false := by
  cases x <;> rfl

end Double

end SlideMerge.Numeric
