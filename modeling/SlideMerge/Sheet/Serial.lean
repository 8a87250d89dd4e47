import SlideMerge.Format.NumberCode

/-!
# Date serials

Spreadsheets store dates as numbers of days. The 1900 system calls 1900-01-01 day 1 and counts a
29 February 1900 that never was as day 60, so its serials from 61 on are days since 1899-12-30 and
those below 60 are one day behind that count; serial 60 itself lands on 28 February. The 1904
system calls 1904-01-01 day 0. The fraction of a serial is the time of day, in milliseconds.

There are two readings of a serial. The current spreadsheet format reads a serial below 1 as a bare
time of day (`decode?`); the legacy format always as a point in time (`legacyDecode?`).
-/

namespace SlideMerge.Sheet

open Numeric Calendar Format

/-- The number that a value is, if it is one. A truth value counts. -/
def Value.number? : Value → Option Number
  | .logical b => some (.logical b)
  | .integer n => some (.integer n)
  | .real x => some (.real x)
  | _ => none

/-- The day that serials are counted from. -/
inductive DateSystem
  | from1900
  | from1904
  deriving DecidableEq, Repr

namespace DateSystem

/-- The system named by a year; years other than 1904 mean the 1900 system. -/
def ofYear (year : Int) : DateSystem :=
  if year = 1904 then from1904 else from1900

/-- The year that names the system. -/
def year : DateSystem → Nat
  | from1900 => 1900
  | from1904 => 1904

/-- The number of the day that serial 0 would be, which is 1899-12-30 or 1904-01-01. -/
def baseOrdinal : DateSystem → Nat
  | from1900 => 693594
  | from1904 => 695056

end DateSystem

def firstDay1904 : Date := ⟨1904, 1, 1, by decide⟩

theorem ordinal_firstDay1904 : firstDay1904.ordinal = DateSystem.from1904.baseOrdinal := by
  decide

def microsPerMilli : Nat := 1000

/-- A number of days: whole days, and a fraction as a double. -/
structure DayCount where
  days : Int
  fraction : Double
  deriving DecidableEq

/-- The whole days rounded down and what they leave; none for a number that is not finite. -/
def DayCount.floor? : Number → Option DayCount
  | .logical b => some ⟨b.toInt, .zero false⟩
  | .integer n => some ⟨n, .zero false⟩
  | .real x => x.toRat?.map fun q => ⟨q.floor, .ofRat (q - q.floor) false⟩

/-- The whole days rounded toward zero and what they leave. -/
def DayCount.truncate? : Number → Option DayCount
  | .logical b => some ⟨b.toInt, .zero false⟩
  | .integer n => some ⟨n, .zero false⟩
  | .real x => x.toRat?.map fun q => ⟨truncate q, .ofRat (q - truncate q) false⟩

/-- The integer nearest to a finite double, the even one of two. -/
def nearestInt (x : Double) : Int :=
  ((x.toRat?).map roundEven).getD 0

/-- The milliseconds of a fraction of a day, through its seconds. -/
def millisOfFraction (fraction : Double) : Int :=
  nearestInt ((fraction.mul (.ofRat 86400 false)).mul (.ofRat 1000 false))

/-- The milliseconds of a fraction of a day. -/
def legacyMillisOfFraction (fraction : Double) : Int :=
  nearestInt (fraction.mul (.ofRat 86400000 false))

/-- What a serial stands for. -/
inductive Moment
  | time (t : TimeOfDay)
  | dateTime (t : DateTime)
  deriving DecidableEq

/-- The point in time of a serial of the current spreadsheet format, or the time of day of a serial
below 1; none if the calendar does not reach it. -/
def decode? (system : DateSystem) (serial : Number) : Option Moment := do
  let count ← DayCount.floor? serial
  let micros := millisOfFraction count.fraction * microsPerMilli
  if h : count.days = 0 ∧ 0 ≤ micros ∧ micros < microsPerDay then
    some (.time ⟨micros.toNat, by omega⟩)
  else
    let beforeLeap := system = .from1900 ∧ serial.isPositive ∧ serial.isLess 60
    let days := if beforeLeap then count.days + 1 else count.days
    let date ← Date.ofOrdinal? (system.baseOrdinal + days)
    (DateTime.ofDate date).addMicros? micros |>.map .dateTime

/-- The point in time that a serial denotes. Negative serials denote none, and in the 1900 system
neither do serials below 1, which are bare times of day. -/
def serialToDate? (system : DateSystem) (serial : Number) : Option DateTime :=
  if serial.isNegative then none
  else
    match decode? system serial with
    | some (.dateTime t) => some t
    | some (.time t) => if system = .from1904 then some ⟨firstDay1904, t⟩ else none
    | none => none

/-- The point in time of a serial. One that has none is reported with its digits, unless it is
negative. -/
def decodeSerial (system : DateSystem) (serial : Number) : Except WriteFault (Option DateTime) :=
  match serialToDate? system serial with
  | some t => .ok (some t)
  | none =>
    if serial.isNegative || serial.toValue.isWritable then .ok none else .error .tooManyDigits

/-- A duration of whole seconds rounded down, by way of a double, and of milliseconds. -/
def toMillis? (d : Duration) : Option Duration :=
  if d.microseconds = 0 then some d
  else
    let seconds := (Double.ofRat (d.micros / microsPerSecond) false).floor?.getD 0
    let millis := roundEven (d.microseconds / microsPerMilli)
    Duration.ofMicros? (seconds * microsPerSecond + millis * microsPerMilli)

/-- The length of time of a number of days, rounded to milliseconds; none if it is out of range. -/
def decodeDuration? (serial : Number) : Option Duration := do
  let count ← DayCount.truncate? serial
  let micros := nearestInt (count.fraction.mul (.ofRat microsPerDay false))
  toMillis? (← Duration.ofMicros? (count.days * microsPerDay + micros))

/-- The point in time of a serial of the legacy spreadsheet format. -/
def legacyDecode? (system : DateSystem) (serial : Number) : Option DateTime := do
  let count ← DayCount.truncate? serial
  let base : Int :=
    if system = .from1900 ∧ serial.isLess 60 then system.baseOrdinal + 1
    else system.baseOrdinal
  let micros := legacyMillisOfFraction count.fraction * microsPerMilli
  DateTime.ofInstant? ((base - 1 + count.days) * microsPerDay + micros)

end SlideMerge.Sheet
