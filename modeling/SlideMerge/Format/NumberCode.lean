import SlideMerge.Format.General
import SlideMerge.Format.Literal
import SlideMerge.Format.Section

/-!
# Number codes

A section of a number code holds one pattern of digit placeholders `0 # ?` with literal text on its
two sides. The pattern is looked for outside quoted text and escapes only. A comma before the last
placeholder of the whole part asks for groups of thousands; commas right after the placeholders of
the whole part or the fraction divide by a thousand each; a `%` in the literal text multiplies by a
hundred. Fractions and engineering notation fall back to the general format.
-/

namespace SlideMerge.Format

open Numeric Sheet Text

/-! ## Numbers -/

/-- A number that is displayed. A truth value counts as 0 or 1, with a general format of its own. -/
inductive Number
  | logical (b : Bool)
  | integer (n : Int)
  | real (x : Double)
  deriving DecidableEq

/-- Why a number cannot be rendered with a code. -/
inductive NumberFault
  /-- The integer is larger than every double. -/
  | integerTooLarge
  /-- The quotient of two integers is larger than every double. -/
  | quotientTooLarge
  /-- An infinite or undefined number has no exponent. -/
  | noExponent
  /-- The integer has too many digits to be written. -/
  | tooManyDigits
  deriving DecidableEq, Repr

def NumberFault.message : NumberFault → String
  | integerTooLarge => "int too large to convert to float"
  | quotientTooLarge => "integer division result too large for a float"
  | noExponent => "not enough values to unpack (expected 2, got 1)"
  | tooManyDigits => WriteFault.tooManyDigits.message

namespace Number

/-- Below zero. -/
def isNegative : Number → Bool
  | logical _ => false
  | integer n => n < 0
  | real x => x.isNegative

/-- Equal to zero. -/
def isZero : Number → Bool
  | logical b => !b
  | integer n => n == 0
  | real x => x.isZero

/-- Above zero. -/
def isPositive : Number → Bool
  | logical b => b
  | integer n => 0 < n
  | real x => !x.isNegative && !x.isZero && x != .nan

/-- Less than an integer. -/
def isLess (limit : Int) : Number → Bool
  | logical b => b.toInt < limit
  | integer n => n < limit
  | real x => x.isLess limit

/-- The number without its sign. -/
def abs : Number → Number
  | logical b => integer b.toInt
  | integer n => integer n.natAbs
  | real x => real x.abs

/-- The double nearest to an integer. -/
def doubleOfInt (n : Int) : Except NumberFault Double :=
  match Double.ofInt? n with
  | some x => .ok x
  | none => .error .integerTooLarge

/-- A hundred times the number: exactly for an integer, rounded for a double. -/
def timesHundred : Number → Number
  | logical b => integer (100 * b.toInt)
  | integer n => integer (100 * n)
  | real x => real (x.mul (Double.ofRat 100 false))

/-- An integer divided by `1000^k`, rounded once. -/
def intDivThousands (k : Nat) (n : Int) : Except NumberFault Number :=
  match Double.ofRat (n / 1000 ^ k) false with
  | .infinite _ => .error .quotientTooLarge
  | x => .ok (real x)

/-- The number divided by `1000^k`. A double is divided by the double nearest to `1000^k`. -/
def divThousands (k : Nat) : Number → Except NumberFault Number
  | logical b => intDivThousands k b.toInt
  | integer n => intDivThousands k n
  | real x => do
    let divisor ← doubleOfInt (Nat.pow 1000 k)
    .ok (real (x.divPos divisor))

/-- The magnitude of the number as a double. -/
def magnitude : Number → Except NumberFault Double
  | logical b => doubleOfInt b.toInt
  | integer n => doubleOfInt n.natAbs
  | real x => .ok x.abs

/-- The value whose general format is that of the number. -/
def toValue : Number → Value
  | logical b => .logical b
  | integer n => .integer n
  | real x => .real x

end Number

/-! ## Patterns -/

/-- A character of a section, and whether it is hidden from the search for placeholders. -/
structure Mark where
  char : Char
  hidden : Bool
  deriving DecidableEq, Repr

/-- Marks the characters of quoted text and escapes as hidden; the flag says that the beginning
lies inside quotes. A quote that is never closed hides nothing, and neither does a backslash before
a line feed or at the end. -/
def markFrom : (quoted : Bool) → List Char → List Mark
  | _, [] => []
  | true, c :: rest => ⟨c, true⟩ :: markFrom (c != '"') rest
  | false, '\\' :: c :: rest =>
    if c = '\n' then ⟨'\\', false⟩ :: ⟨c, false⟩ :: markFrom false rest
    else ⟨'\\', true⟩ :: ⟨c, true⟩ :: markFrom false rest
  | false, c :: rest =>
    if c = '"' ∧ '"' ∈ rest then ⟨c, true⟩ :: markFrom true rest
    else ⟨c, false⟩ :: markFrom false rest

/-- The marked characters of a section. -/
def marks (sec : List Char) : List Mark :=
  markFrom false sec

def chars (ms : List Mark) : List Char :=
  ms.map Mark.char

namespace Mark

/-- A visible character of the given kind. -/
def shows (p : Char → Bool) (m : Mark) : Bool :=
  !m.hidden && p m.char

/-- A placeholder of a digit. -/
def isPlaceholder : Mark → Bool :=
  shows fun c => c == '0' || c == '#' || c == '?'

def isComma : Mark → Bool :=
  shows (· == ',')

def isPoint : Mark → Bool :=
  shows (· == '.')

def isBlank : Mark → Bool :=
  shows Text.isBlank

end Mark

/-- The first suffix on which `p` succeeds: what stands before it and what `p` gives. -/
def leftmost {α : Type} (p : List Mark → Option α) : List Mark → Option (List Mark × α)
  | [] => (p []).map ([], ·)
  | m :: rest =>
    match p (m :: rest) with
    | some a => some ([], a)
    | none => (leftmost p rest).map fun (before, a) => (m :: before, a)

def placeholders (ms : List Mark) : Nat :=
  ms.countP Mark.isPlaceholder

/-- A pattern with an exponent, as in `0.00E+00`. -/
structure ScientificPattern where
  /-- The placeholders before the point. -/
  wholeCount : Nat
  /-- The placeholders after the point. -/
  places : Nat
  /-- Whether a positive exponent gets a sign. -/
  signed : Bool
  /-- The least number of digits of the exponent. -/
  exponentWidth : Nat
  deriving DecidableEq, Repr

/-- Reads the mark of the exponent, its sign and its placeholders. -/
def readExponent (wholeCount places : Nat) : List Mark → Option (ScientificPattern × List Mark)
  | e :: sign :: rest =>
    let width := (rest.takeWhile Mark.isPlaceholder).length
    if e.shows (fun c => c == 'e' || c == 'E') && sign.shows (fun c => c == '+' || c == '-') &&
        width != 0 then
      some (⟨wholeCount, places, sign.char == '+', width⟩, rest.drop width)
    else none
  | _ => none

/-- Reads a pattern with an exponent at the beginning of the marks. -/
def readScientific : List Mark → Option (ScientificPattern × List Mark)
  | [] => none
  | m :: rest =>
    if m.isPlaceholder then
      let inWhole (m : Mark) : Bool := m.isPlaceholder || m.isComma
      let whole := m :: rest.takeWhile inWhole
      match rest.dropWhile inWhole with
      | [] => none
      | point :: after =>
        if point.isPoint then
          readExponent (placeholders whole) (placeholders (after.takeWhile Mark.isPlaceholder))
            (after.dropWhile Mark.isPlaceholder)
        else readExponent (placeholders whole) 0 (point :: after)
    else none

/-- Whether the marks begin with a fraction: a placeholder, a slash and a placeholder or a digit,
with any blanks around the slash. -/
def beginsFraction : List Mark → Bool
  | [] => false
  | m :: rest =>
    m.isPlaceholder &&
      match rest.dropWhile Mark.isBlank with
      | [] => false
      | slash :: rest =>
        slash.shows (· == '/') &&
          (rest.dropWhile Mark.isBlank).head?.any fun d => d.isPlaceholder || d.shows isDigit

/-- Whether a fraction stands anywhere among the marks. -/
def hasFraction : List Mark → Bool
  | [] => false
  | m :: rest => beginsFraction (m :: rest) || hasFraction rest

def trailingCommas (ms : List Mark) : Nat :=
  (ms.reverse.takeWhile Mark.isComma).length

/-- A pattern without an exponent, as in `#,##0.00`. -/
structure FixedPattern where
  /-- Whether the whole part is written in groups of three digits. -/
  grouped : Bool
  /-- The number of digits after the point. -/
  places : Nat
  /-- How often the number is divided by a thousand. -/
  scaling : Nat
  deriving DecidableEq, Repr

/-- The pattern with this whole part and this fraction. -/
def FixedPattern.ofParts (whole fraction : List Mark) : FixedPattern :=
  let scaling := trailingCommas whole
  ⟨(whole.take (whole.length - scaling)).any Mark.isComma, placeholders fraction,
    scaling + trailingCommas fraction⟩

/-- Reads the fraction that follows a point, with the commas after it. -/
def readFraction (whole rest : List Mark) : FixedPattern × List Mark :=
  let fraction := rest.takeWhile Mark.isPlaceholder
  let after := rest.dropWhile Mark.isPlaceholder
  (.ofParts whole (fraction ++ after.takeWhile Mark.isComma), after.dropWhile Mark.isComma)

/-- Reads a pattern without an exponent at the beginning of the marks. -/
def readFixed : List Mark → Option (FixedPattern × List Mark)
  | [] => none
  | m :: rest =>
    if m.isPlaceholder then
      let inWhole (m : Mark) : Bool := m.isPlaceholder || m.isComma
      let whole := m :: rest.takeWhile inWhole
      match rest.dropWhile inWhole with
      | [] => some (.ofParts whole [], [])
      | point :: after =>
        if point.isPoint then some (readFraction whole after)
        else some (.ofParts whole [], point :: after)
    else if m.isPoint && rest.head?.any Mark.isPlaceholder then some (readFraction [] rest)
    else none

/-! ## Rendering -/

/-- The sections that a number can be shown with: the first one for every number, one for negative
numbers and one for zero. A blank section counts as missing. -/
def numberSection (code : List Char) (value : Number) : List Char × Number × Bool :=
  let (first, others) := sections code
  let second := others.getD 0 []
  let third := others.getD 1 []
  if value.isNegative && !isBlankText second then (second, value.abs, false)
  else if value.isZero && !isBlankText third then (third, value, false)
  else (first, value, value.isNegative)

/-- A number in the general format. -/
def generalText (value : Number) : Except NumberFault (List Char) :=
  if value.toValue.isWritable then .ok (formatGeneral value.toValue) else .error .tooManyDigits

/-- Renders a magnitude with the pattern; the flag says whether anything but zero was printed. -/
def fixedMagnitude (pattern : FixedPattern) (x : Double) : List Char × Bool :=
  match x.toRat? with
  | some q =>
    let units := fixedUnits pattern.places q
    (fixedText pattern.places pattern.grouped units, units != 0)
  | none => (x.text, true)

/-- Renders a number with a pattern that has no exponent, between two literal fragments. -/
def formatFixed (pattern : FixedPattern) (before after : List Char) (negative : Bool)
    (value : Number) : Except NumberFault (List Char) := do
  let before := literalText before
  let after := literalText after
  let value := if '%' ∈ before ∨ '%' ∈ after then value.timesHundred else value
  let value ← if pattern.scaling = 0 then .ok value else value.divThousands pattern.scaling
  let (digits, nonzero) := fixedMagnitude pattern (← value.magnitude)
  .ok ((if negative && nonzero then ['-'] else []) ++ before ++ digits ++ after)

/-- Renders a number with a pattern that has an exponent, between two literal fragments. -/
def formatScientific (pattern : ScientificPattern) (before after : List Char) (value : Number) :
    Except NumberFault (List Char) := do
  if 1 < pattern.wholeCount then generalText value
  else
    match (← value.magnitude).toRat? with
    | none => .error .noExponent
    | some q =>
      let s := Scientific.ofRat pattern.places q
      let sign := if s.exponent < 0 then ['-'] else if pattern.signed then ['+'] else []
      let digits := paddedDecimal pattern.exponentWidth s.exponent.natAbs
      .ok ((if value.isNegative then ['-'] else []) ++ literalText before ++
        s.mantissaText pattern.places ++ 'E' :: sign ++ digits ++ literalText after)

/-- Renders a number with one section, whose brackets have been removed. -/
def formatSection (sec : List Char) (value : Number) (negative : Bool) :
    Except NumberFault (List Char) :=
  if isBlankText sec || isGeneral (trim sec) then generalText value
  else
    let ms := marks sec
    match leftmost readScientific ms with
    | some (before, pattern, after) => formatScientific pattern (chars before) (chars after) value
    | none =>
      if hasFraction ms then generalText value
      else
        match leftmost readFixed ms with
        | some (before, pattern, after) =>
          formatFixed pattern (chars before) (chars after) negative value
        | none => .ok (literalText sec)

/-- Renders a number with a number code. -/
def formatNumber (value : Number) (code : List Char) : Except NumberFault (List Char) :=
  let (sec, value, negative) := numberSection code value
  formatSection (stripBrackets sec) value negative

end SlideMerge.Format
