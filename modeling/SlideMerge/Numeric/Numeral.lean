import SlideMerge.Text.Blank
import SlideMerge.Text.DecimalDigit
import SlideMerge.Text.Quoted

/-!
# Integers as text

Integers are written in the digits `0` to `9` without leading zeros. They are read more freely:
white space around the number, a sign, the decimal digits of any script, and single underscores
between digits are accepted. Information separators are no white space here.
-/

namespace SlideMerge.Numeric

open Text

/-- The decimal digits of a number. -/
def decimal (n : Nat) : List Char :=
  Nat.toDigits 10 n

/-- The decimal digits of an integer, after a `-` if it is negative. -/
def decimalInt (n : Int) : List Char :=
  if n < 0 then '-' :: decimal n.natAbs else decimal n.natAbs

/-- The decimal digits of a number with leading zeros up to the width. -/
def paddedDecimal (width n : Nat) : List Char :=
  let digits := decimal n
  List.replicate (width - digits.length) '0' ++ digits

/-- The decimal digits of an integer with leading zeros up to the width, in which a sign counts. -/
def paddedDecimalInt (width : Nat) (n : Int) : List Char :=
  if n < 0 then '-' :: paddedDecimal (width - 1) n.natAbs else paddedDecimal width n.natAbs

/-- Puts a comma after every third character; applied to digits from the last to the first. -/
def commaEveryThird : List Char → List Char
  | a :: b :: c :: d :: rest => a :: b :: c :: ',' :: commaEveryThird (d :: rest)
  | short => short

/-- The digits in groups of three, counted from the last digit. -/
def groupThousands (digits : List Char) : List Char :=
  (commaEveryThird digits.reverse).reverse

theorem filter_commaEveryThird (cs : List Char) (h : ',' ∉ cs) :
    (commaEveryThird cs).filter (· != ',') = cs := by
  fun_induction commaEveryThird cs with
  | case1 a b c d rest ih =>
    simp only [List.mem_cons, not_or] at h
    simp [Ne.symm h.1, Ne.symm h.2.1, Ne.symm h.2.2.1, ih (by simp [h.2.2.2])]
  | case2 cs _ =>
    exact List.filter_eq_self.2 fun a ha => by
      simp only [bne_iff_ne]
      rintro rfl
      exact h ha

/-- The leading run of digits with the rest of the text. After a digit, a single underscore before
another digit belongs to the run. -/
def takeDigitsFrom (afterDigit : Bool) : List Char → List Nat × List Char
  | [] => ([], [])
  | c :: rest =>
    match digitValue? c with
    | some d =>
      let (ds, after) := takeDigitsFrom true rest
      (d :: ds, after)
    | none =>
      if afterDigit && c == '_' && rest.head?.any isDigit then takeDigitsFrom false rest
      else ([], c :: rest)

/-- The leading run of digits, in which single underscores may separate digits, with the rest of
the text. -/
def takeDigits (cs : List Char) : List Nat × List Char :=
  takeDigitsFrom false cs

/-- Splits off a leading sign; the flag says that it is a `-`. -/
def takeSign : List Char → Bool × List Char
  | '-' :: rest => (true, rest)
  | '+' :: rest => (false, rest)
  | cs => (false, cs)

/-- The number that digit values write, the most significant first. -/
def ofDigits (digits : List Nat) : Nat :=
  digits.foldl (fun acc d => 10 * acc + d) 0

/-- The most digits that an integer may be read from or written in. The values of cells are held to
this limit when they are written. Page numbers, sizes and limits are not: as texts they have been
read under it, and `decimal` writes numbers of any size. -/
def maxIntegerDigits : Nat := 4300

/-- Whether an integer has few enough digits to be written. -/
def hasShortText (n : Int) : Bool :=
  (decimal n.natAbs).length ≤ maxIntegerDigits

/-- Why an integer cannot be written. -/
inductive WriteFault
  | tooManyDigits
  deriving DecidableEq, Repr

def WriteFault.message : WriteFault → String
  | tooManyDigits =>
    s!"Exceeds the limit ({maxIntegerDigits} digits) for integer string conversion; " ++
      "use sys.set_int_max_str_digits() to increase the limit"

/-- Why a text is no integer. -/
inductive IntegerFault
  | malformed (text : String)
  | tooManyDigits (count : Nat)
  deriving DecidableEq, Repr

/-- The most characters of a quoted text that are shown. -/
def maxShownLength : Nat := 200

def IntegerFault.message : IntegerFault → String
  | malformed text =>
    let shown := String.ofList ((quoted text.toList).take maxShownLength)
    s!"invalid literal for int() with base 10: {shown}"
  | tooManyDigits count =>
    s!"Exceeds the limit ({maxIntegerDigits} digits) for integer string conversion: " ++
      s!"value has {count} digits; use sys.set_int_max_str_digits() to increase the limit"

/-- The integer that a text writes. Too many digits are reported before what follows them, except
for an underscore that is out of place. -/
def readInteger (text : String) : Except IntegerFault Int :=
  let (negative, unsigned) := takeSign (trimWhiteSpace text.toList)
  let (digits, rest) := takeDigits unsigned
  let magnitude : Int := ofDigits digits
  if digits.isEmpty ∨ rest.head? = some '_' then .error (.malformed text)
  else if maxIntegerDigits < digits.length then .error (.tooManyDigits digits.length)
  else if rest.isEmpty then .ok (if negative then -magnitude else magnitude)
  else .error (.malformed text)

end SlideMerge.Numeric
