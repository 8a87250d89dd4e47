import SlideMerge.Calendar.Date

/-!
# Times, durations and points in time

Time is counted in microseconds. A time of day is a number of microseconds since midnight, a
duration any signed number of them up to a billion days, and a point in time a date with a time of
day. `DateTime.instant` counts points in time from midnight before 0001-01-01, so that adding a
duration is an addition.
-/

namespace SlideMerge.Calendar

open Numeric

def microsPerSecond : Nat := 1000000

def microsPerDay : Nat := 86400 * microsPerSecond

structure TimeOfDay where
  micros : Nat
  isLt : micros < microsPerDay
  deriving DecidableEq

namespace TimeOfDay

def midnight : TimeOfDay := ⟨0, by decide⟩

/-- The time of day with these fields, if each is in its range. -/
def ofFields? (hour minute second microsecond : Nat) : Option TimeOfDay :=
  let micros := ((hour * 60 + minute) * 60 + second) * microsPerSecond + microsecond
  if h : hour < 24 ∧ minute < 60 ∧ second < 60 ∧ microsecond < microsPerSecond then
    some ⟨micros, by unfold micros microsPerDay; unfold microsPerSecond at *; omega⟩
  else none

/-- The hour, from 0 to 23. -/
def hour (t : TimeOfDay) : Nat := t.micros / (3600 * microsPerSecond)

/-- The minute of the hour. -/
def minute (t : TimeOfDay) : Nat := t.micros / (60 * microsPerSecond) % 60

/-- The second of the minute. -/
def second (t : TimeOfDay) : Nat := t.micros / microsPerSecond % 60

/-- The microsecond of the second. -/
def microsecond (t : TimeOfDay) : Nat := t.micros % microsPerSecond

/-- A point and six digits for the microseconds; nothing if there are none. -/
def microsecondText (n : Nat) : List Char :=
  if n = 0 then [] else '.' :: paddedDecimal 6 n

/-- The time as hour, minute and second with colons between them, and the microseconds if any. -/
def text (t : TimeOfDay) : List Char :=
  paddedDecimal 2 t.hour ++ ':' :: paddedDecimal 2 t.minute ++ ':' :: paddedDecimal 2 t.second ++
    microsecondText t.microsecond

end TimeOfDay

/-- The most days that a duration may have, in either direction. -/
def maxDurationDays : Nat := 999999999

/-- The durations whose whole days, rounded down, are in range. -/
def IsDuration (micros : Int) : Prop :=
  -(maxDurationDays : Int) ≤ micros / microsPerDay ∧ micros / microsPerDay ≤ maxDurationDays

instance (micros : Int) : Decidable (IsDuration micros) :=
  inferInstanceAs (Decidable (_ ∧ _))

/-- A signed length of time. -/
structure Duration where
  micros : Int
  isDuration : IsDuration micros
  deriving DecidableEq

namespace Duration

/-- The duration of so many microseconds, if it is in range. -/
def ofMicros? (micros : Int) : Option Duration :=
  if h : IsDuration micros then some ⟨micros, h⟩ else none

/-- The whole days, rounded down. -/
def days (d : Duration) : Int := d.micros / microsPerDay

/-- What the whole days leave, as a time of day. -/
def remainder (d : Duration) : TimeOfDay :=
  ⟨(d.micros % microsPerDay).toNat, by
    have h : (0 : Int) < microsPerDay := by decide
    have := Int.emod_lt_of_pos d.micros h
    have := Int.emod_nonneg d.micros (Int.ne_of_gt h)
    omega⟩

/-- The seconds after the whole days. -/
def seconds (d : Duration) : Nat := d.remainder.micros / microsPerSecond

/-- The microseconds after the whole seconds. -/
def microseconds (d : Duration) : Nat := d.remainder.microsecond

/-- The days, if there are any, and the rest as hours, minutes and seconds, of which the hours are
not padded. -/
def text (d : Duration) : List Char :=
  let days :=
    if d.days = 0 then []
    else decimalInt d.days ++ (if d.days.natAbs = 1 then " day, " else " days, ").toList
  let t := d.remainder
  days ++ decimal t.hour ++ ':' :: paddedDecimal 2 t.minute ++ ':' :: paddedDecimal 2 t.second ++
    TimeOfDay.microsecondText t.microsecond

end Duration

/-- A point in time, without a time zone. -/
structure DateTime where
  date : Date
  time : TimeOfDay
  deriving DecidableEq

namespace DateTime

/-- The microseconds since the midnight that begins 0001-01-01. -/
def instant (t : DateTime) : Nat :=
  (t.date.ordinal - 1) * microsPerDay + t.time.micros

/-- The point in time at so many microseconds after the midnight that begins 0001-01-01, if it lies
between years 1 and 9999. -/
def ofInstant? (micros : Int) : Option DateTime := do
  let date ← Date.ofOrdinal? (micros / microsPerDay + 1)
  let rest := (micros % microsPerDay).toNat
  if h : rest < microsPerDay then some ⟨date, ⟨rest, h⟩⟩ else none

/-- The point in time a number of microseconds later, if the calendar reaches it. -/
def addMicros? (t : DateTime) (micros : Int) : Option DateTime :=
  ofInstant? (t.instant + micros)

/-- The beginning of a day. -/
def ofDate (d : Date) : DateTime := ⟨d, .midnight⟩

/-- The date and the time with a character between them. -/
def text (t : DateTime) (separator : Char) : List Char :=
  t.date.text ++ separator :: t.time.text

end DateTime

end SlideMerge.Calendar
