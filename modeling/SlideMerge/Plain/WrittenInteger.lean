import SlideMerge.Numeric.Numeral

/-!
# Integers written in plain data

A text in plain data may stand for an integer. It is read more strictly than an integer that a
person types: the digits are those of ASCII, and only the white space of Unicode is ignored at the
two ends. A plus sign, leading zeros, zeros after a point, and single underscores are allowed and
taken away, one after the other; what is left has to be an integer as it is printed.
-/

namespace SlideMerge.Plain

open Text Numeric

/-- Why a text stands for no integer. -/
inductive WrittenFault
  | malformed
  | tooLong
  deriving DecidableEq, Repr

/-- The text without a plus sign at its beginning, which must not stand before a minus sign. -/
def withoutPlus : List Char → List Char
  | '+' :: rest => if rest.head? = some '-' then '+' :: rest else rest
  | cs => cs

/-- The text without zeros at its beginning. Underscores among them go with them, and the last zero
stays at the end of the text and before a point. -/
def withoutLeadingZeros (cs : List Char) : List Char :=
  if cs.head? = some '0' then
    let zeros := cs.takeWhile fun c => c == '0' || c == '_'
    let kept := zeros.drop (zeros.length - 1)
    match cs.drop zeros.length with
    | [] => kept
    | c :: rest =>
      if c = '.' then kept ++ c :: rest else if c.isDigit then c :: rest else cs
  else cs

/-- The text without a point and the zeros after it. A point that nothing follows stays. -/
def withoutFraction (cs : List Char) : List Char :=
  let whole := cs.takeWhile (· != '.')
  let fraction := cs.drop (whole.length + 1)
  if !fraction.isEmpty && fraction.all (· == '0') then whole else cs

/-- Whether two underscores stand together. -/
def hasUnderscorePair (cs : List Char) : Bool :=
  (cs.zip cs.tail).contains ('_', '_')

/-- The text without underscores, if they only stand alone between other characters. -/
def withoutUnderscores (cs : List Char) : List Char :=
  if cs.head? = some '_' ∨ cs.getLast? = some '_' ∨ hasUnderscorePair cs then cs
  else cs.filter (· != '_')

/-- The integer that is printed as a text. Its length is looked at before what follows the
digits. -/
def readPrinted (cs : List Char) : Except WrittenFault Int :=
  let negative := cs.head? = some '-'
  let unsigned := if negative then cs.tail else cs
  let digits := unsigned.takeWhile Char.isDigit
  let magnitude := ofDigits (digits.map fun c => c.toNat - '0'.toNat)
  if digits.isEmpty ∨ (digits.head? = some '0' ∧ 1 < digits.length) then .error .malformed
  else if maxIntegerDigits < digits.length + (cs.length - unsigned.length) then .error .tooLong
  else if digits.length < unsigned.length then .error .malformed
  else .ok (if negative then -(magnitude : Int) else magnitude)

/-- The integer that a text in plain data stands for. -/
def readWritten (text : String) : Except WrittenFault Int :=
  let plain := withoutLeadingZeros (withoutPlus (trimWhiteSpace text.toList))
  readPrinted (withoutUnderscores (withoutFraction plain))

end SlideMerge.Plain
