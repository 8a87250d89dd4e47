import SlideMerge.Numeric.Decimal.Reader
import SlideMerge.Sheet.Value

/-!
# Timestamps

A timestamp is a date, a time of day, or both with `T` between them, or else a duration in hours,
minutes and seconds after `PT`, each with its letter. Only the beginning of a text has to be one.
-/

namespace SlideMerge.Workbook

open Text Numeric Calendar Sheet

/-- A number of exactly so many digits, and the rest of the text. -/
def takeFixed? (count : Nat) (text : List Char) : Option (Nat × List Char) :=
  let digits := text.take count
  if digits.length = count ∧ digits.all isDigit then some (digitsValue digits, text.drop count)
  else none

/-- The rest of a text after a character. -/
def after? (c : Char) : List Char → Option (List Char)
  | d :: rest => if d = c then some rest else none
  | [] => none

/-- The rest of a text after a character that may be left out. -/
def skip (c : Char) (text : List Char) : List Char :=
  (after? c text).getD text

structure DateFields where
  year : Nat
  month : Nat
  day : Nat

/-- A date at the beginning of a text. -/
def takeDate? (text : List Char) : Option (DateFields × List Char) := do
  let (year, text) ← takeFixed? 4 text
  let (month, text) ← takeFixed? 2 (← after? '-' text)
  let (day, text) ← takeFixed? 2 (← after? '-' text)
  some (⟨year, month, day⟩, text)

structure TimeFields where
  hour : Nat
  minute : Nat
  second : Nat
  microsecond : Nat

/-- The microseconds of a fraction of a second in one to three digits after a point, rounded down
after a multiplication of doubles. -/
def takeMicroseconds (text : List Char) : Nat :=
  match after? '.' text with
  | none => 0
  | some rest =>
    let digits := (rest.take 3).takeWhile isDigit
    let fraction := DecimalNumeral.toDouble ⟨false, digitsValue digits, -digits.length⟩
    let micros := fraction.mul (.ofRat microsPerSecond false)
    (micros.floor?.getD 0).toNat

/-- A time of day at the beginning of a text. -/
def takeTime? (text : List Char) : Option TimeFields := do
  let (hour, text) ← takeFixed? 2 text
  let (minute, text) ← takeFixed? 2 (← after? ':' text)
  match (after? ':' text).bind (takeFixed? 2) with
  | some (second, text) => some ⟨hour, minute, second, takeMicroseconds text⟩
  | none => some ⟨hour, minute, 0, 0⟩

/-- The value with these fields, if they are in range. -/
def momentOfFields? (date : Option DateFields) (time : Option TimeFields) : Option Value := do
  match date, time with
  | none, none => none
  | some d, none => some (.date (← Date.ofFields? d.year d.month d.day))
  | none, some t => some (.time (← TimeOfDay.ofFields? t.hour t.minute t.second t.microsecond))
  | some d, some t =>
    let date ← Date.ofFields? d.year d.month d.day
    some (.dateTime ⟨date, ← TimeOfDay.ofFields? t.hour t.minute t.second t.microsecond⟩)

/-- A number before a letter, with up to three digits after a point if these are allowed. -/
def takeMeasure? (letter : Char) (fractions : Bool) (text : List Char) :
    Option (DecimalNumeral × List Char) := do
  let whole := text.takeWhile isDigit
  if whole.isEmpty then none
  let rest := text.drop whole.length
  match after? letter rest with
  | some rest => some (⟨false, digitsValue whole, 0⟩, rest)
  | none =>
    let fraction ← if fractions then after? '.' rest else none
    let digits := (fraction.take 3).takeWhile isDigit
    if digits.isEmpty then none
    let rest ← after? letter (fraction.drop digits.length)
    some (⟨false, digitsValue (whole ++ digits), -digits.length⟩, rest)

/-- The microseconds of a number of units, of which a fraction is rounded as a double. -/
def microsOf (unit : Nat) (amount : Option DecimalNumeral) : Int :=
  match amount.bind fun n => n.toDouble.toRat? with
  | none => 0
  | some q =>
    let part := (Double.ofRat (q - q.floor) false).mul (.ofRat unit false)
    q.floor * unit + ((part.toRat?).map roundEven).getD 0

def takeDuration? (text : List Char) : Option Duration := do
  let text ← after? 'T' (← after? 'P' text)
  let next (taken : Option (DecimalNumeral × List Char)) (text : List Char) :=
    (taken.map (·.1), (taken.map (·.2)).getD text)
  let (hours, text) := next (takeMeasure? 'H' false text) text
  let (minutes, text) := next (takeMeasure? 'M' false text) text
  let (seconds, _) := next (takeMeasure? 'S' true text) text
  if hours.isNone && minutes.isNone && seconds.isNone then none
  Duration.ofMicros? (microsOf (3600 * microsPerSecond) hours +
    microsOf (60 * microsPerSecond) minutes + microsOf microsPerSecond seconds)

/-- The value that a timestamp stands for. -/
def readTimestamp? (text : List Char) : Option Value :=
  let date := takeDate? text
  let rest := skip 'T' ((date.map (·.2)).getD text)
  let time := takeTime? rest
  if date.isSome || time.isSome then momentOfFields? (date.map (·.1)) time
  else (takeDuration? text).map .duration

end SlideMerge.Workbook
