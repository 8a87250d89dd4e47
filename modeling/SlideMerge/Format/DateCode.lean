import SlideMerge.Calendar.Time
import SlideMerge.Format.Section

/-!
# Date and time codes

A section of a date code is a sequence of fields and literal text. A field is a run of one of the
letters `y m d h s` in either case, `AM/PM`, `A/P`, or a point with the zeros after it. Runs of `m`
mean the month, except that `m` and `mm` mean the minute next to a field of hours on the left or of
seconds on the right, whatever literal text stands between. The long s `U+017F` counts as a letter
of the run of `s`; a run that begins with it prints nothing.
-/

namespace SlideMerge.Format

open Numeric Calendar

/-- A part of a section of a date code. -/
inductive DatePart
  | field (text : List Char)
  | minute (text : List Char)
  | literal (text : List Char)
  deriving DecidableEq, Repr

/-- The text of a part as it stands in the code. -/
def DatePart.text : DatePart → List Char
  | field text => text
  | minute text => text
  | literal text => text

/-- The long s, which is an s in every comparison without regard to case. -/
def longS : Char := 'ſ'

def isSecondLetter (c : Char) : Bool :=
  c = 's' || c = 'S' || c = longS

/-- The letters that a field beginning with `c` is a run of; none if `c` begins no run. -/
def runClass? (c : Char) : Option (Char → Bool) :=
  match c.toLower with
  | 'y' => some fun d => d.toLower = 'y'
  | 'm' => some fun d => d.toLower = 'm'
  | 'd' => some fun d => d.toLower = 'd'
  | 'h' => some fun d => d.toLower = 'h'
  | _ => if isSecondLetter c then some isSecondLetter else none

/-- Whether a text begins with a word, without regard to the case of ASCII letters. -/
def beginsWith (word text : List Char) : Bool :=
  (text.take word.length).map Char.toLower == word

/-- The number of characters of the field that a text begins with; 0 if it begins with none. -/
def fieldLength (text : List Char) : Nat :=
  match text with
  | [] => 0
  | c :: rest =>
    match runClass? c with
    | some inRun => 1 + (rest.takeWhile inRun).length
    | none =>
      if beginsWith ['a', 'm', '/', 'p', 'm'] text then 5
      else if beginsWith ['a', '/', 'p'] text then 3
      else if c = '.' then
        match (rest.takeWhile (· == '0')).length with
        | 0 => 0
        | zeros => 1 + zeros
      else 0

/-- The parts of a section. Quotes, backslashes, underscores and asterisks have the meanings that
they have in literal text. -/
def dateParts : List Char → List DatePart
  | [] => []
  | '"' :: rest =>
    .literal (rest.takeWhile (· != '"')) :: dateParts ((rest.dropWhile (· != '"')).drop 1)
  | '\\' :: c :: rest => .literal [c] :: dateParts rest
  | '_' :: _ :: rest => .literal [' '] :: dateParts rest
  | '*' :: _ :: rest => .literal [] :: dateParts rest
  | c :: rest =>
    match fieldLength (c :: rest) with
    | 0 => .literal [c] :: dateParts rest
    | n + 1 => .field (c :: rest.take n) :: dateParts (rest.drop n)
termination_by cs => cs.length
decreasing_by
  all_goals simp only [List.length_cons, List.length_drop]
  all_goals first
    | omega
    | exact Nat.lt_succ_of_le (Nat.le_trans (Nat.sub_le _ _) (List.dropWhile_suffix _).length_le)

/-- A field of one or two `m`, which is a month or a minute. -/
def isShortM (text : List Char) : Bool :=
  text.map Char.toLower == ['m'] || text.map Char.toLower == ['m', 'm']

def isHourField (text : List Char) : Bool :=
  text.head?.any fun c => c.toLower = 'h'

def isSecondField (text : List Char) : Bool :=
  text.head?.any fun c => c.toLower = 's'

/-- The first field among the parts. -/
def firstField? (parts : List DatePart) : Option (List Char) :=
  parts.findSome? fun
    | .field text => some text
    | _ => none

/-- Marks the minutes among parts that follow the field `previous`. -/
def markMinutesAfter (previous : Option (List Char)) : List DatePart → List DatePart
  | [] => []
  | .field text :: rest =>
    let minute := isShortM text &&
      (previous.any isHourField || (firstField? rest).any isSecondField)
    (if minute then .minute (text.map Char.toLower) else .field text) ::
      markMinutesAfter (some text) rest
  | part :: rest => part :: markMinutesAfter previous rest

/-- Marks the fields of `m` that mean minutes. -/
def markMinutes (parts : List DatePart) : List DatePart :=
  markMinutesAfter none parts

/-- The hour on a clock of twelve hours. -/
def twelveHour (hour : Nat) : Nat :=
  if hour % 12 = 0 then 12 else hour % 12

/-- A number, padded to two digits if its field has more than one letter. -/
def shortOrPadded (letters n : Nat) : List Char :=
  if letters = 1 then decimal n else paddedDecimal 2 n

/-- The text of a field, given in lower case, for a point in time. -/
def fieldText (twelve : Bool) (t : DateTime) (field : List Char) : List Char :=
  let count := field.length
  match field with
  | 'y' :: _ => if count ≤ 2 then paddedDecimal 2 (t.date.year % 100)
      else paddedDecimal 4 t.date.year
  | 'm' :: _ =>
    let name := monthName t.date.month
    if count ≤ 2 then shortOrPadded count t.date.month
    else if count = 3 then shortName name
    else if count = 4 then name
    else name.take 1
  | 'd' :: _ =>
    let name := dayName t.date.weekday
    if count ≤ 2 then shortOrPadded count t.date.day
    else if count = 3 then shortName name
    else name
  | 'h' :: _ => shortOrPadded count (if twelve then twelveHour t.time.hour else t.time.hour)
  | 's' :: _ => shortOrPadded count t.time.second
  | ['a', 'm', '/', 'p', 'm'] => if t.time.hour < 12 then ['A', 'M'] else ['P', 'M']
  | ['a', '/', 'p'] => if t.time.hour < 12 then ['A'] else ['P']
  | '.' :: zeros => '.' :: (paddedDecimal 6 t.time.microsecond).take zeros.length
  | _ => []

/-- A field that asks for a clock of twelve hours. -/
def isHalfDayField (field : List Char) : Bool :=
  field == ['a', 'm', '/', 'p', 'm'] || field == ['a', '/', 'p']

/-- Whether a part is a field that asks for a clock of twelve hours. -/
def DatePart.asksTwelveHour : DatePart → Bool
  | field text => isHalfDayField (text.map Char.toLower)
  | _ => false

/-- The text of a part for a point in time. -/
def DatePart.render (twelve : Bool) (t : DateTime) : DatePart → List Char
  | literal text => text
  | minute text => shortOrPadded text.length t.time.minute
  | field text => fieldText twelve t (text.map Char.toLower)

/-- The marked parts of the section of a code that dates are written with, which is the first. -/
def datePartsOfCode (code : List Char) : List DatePart :=
  markMinutes (dateParts (stripBrackets (sections code).1))

/-- Renders a point in time with a date code. -/
def formatDateTime (t : DateTime) (code : List Char) : List Char :=
  let parts := datePartsOfCode code
  let twelve := parts.any DatePart.asksTwelveHour
  parts.flatMap (DatePart.render twelve t)

/-- The day on which a bare time of day is placed. -/
def timeOnlyDate : Date := ⟨1899, 12, 31, by decide⟩

end SlideMerge.Format
