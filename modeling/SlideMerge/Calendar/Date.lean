import SlideMerge.Numeric.Numeral
import SlideMerge.Numeric.Total

/-!
# Dates

The Gregorian calendar, extended backwards, from year 1 to year 9999. Days are numbered from 1
for 0001-01-01, a Monday.
-/

namespace SlideMerge.Calendar

open Numeric

/-- A year of 366 days. -/
def isLeapYear (year : Nat) : Bool :=
  year % 4 == 0 && (year % 100 != 0 || year % 400 == 0)

/-- The lengths of the months of a year, January first. -/
def monthLengths (year : Nat) : List Nat :=
  [31, if isLeapYear year then 29 else 28, 31, 30, 31, 30, 31, 31, 30, 31, 30, 31]

/-- The number of days of a month, counted from 1. -/
def daysInMonth (year month : Nat) : Nat :=
  (monthLengths year).getD (month - 1) 0

def daysBeforeYear (year : Nat) : Nat :=
  (year - 1) * 365 + (year - 1) / 4 - (year - 1) / 100 + (year - 1) / 400

/-- The days of the year that lie before the given month. -/
def daysBeforeMonth (year month : Nat) : Nat :=
  total ((monthLengths year).take (month - 1))

/-- The days that the calendar has. -/
def IsDate (year month day : Nat) : Prop :=
  1 ≤ year ∧ year ≤ 9999 ∧ 1 ≤ month ∧ month ≤ 12 ∧ 1 ≤ day ∧ day ≤ daysInMonth year month

instance (year month day : Nat) : Decidable (IsDate year month day) :=
  inferInstanceAs (Decidable (_ ∧ _))

/-- A day of the calendar. -/
structure Date where
  year : Nat
  month : Nat
  day : Nat
  isDate : IsDate year month day
  deriving DecidableEq

namespace Date

/-- The date with these fields, if the calendar has it. -/
def ofFields? (year month day : Nat) : Option Date :=
  if h : IsDate year month day then some ⟨year, month, day, h⟩ else none

/-- The number of a day, counted from 1 for 0001-01-01. -/
def ordinal (d : Date) : Nat :=
  daysBeforeYear d.year + daysBeforeMonth d.year d.month + d.day

/-- The year that the day of a given number lies in: an estimate by the mean length of a year, put
right by at most one. -/
def yearOfOrdinal (n : Nat) : Nat :=
  let estimate := (n - 1) * 400 / 146097 + 1
  if daysBeforeYear (estimate + 1) < n then estimate + 1
  else if n ≤ daysBeforeYear estimate then estimate - 1
  else estimate

/-- Counts the `n`-th day off against the lengths of successive months, the first of which has the
number `month`. -/
def monthAndDay (month n : Nat) : List Nat → Nat × Nat
  | [] => (month, n)
  | length :: rest => if n ≤ length then (month, n) else monthAndDay (month + 1) (n - length) rest

/-- The day of a given number, if it lies between years 1 and 9999. -/
def ofOrdinal? (n : Int) : Option Date :=
  if n < 1 then none
  else
    let n := n.toNat
    let year := yearOfOrdinal n
    let (month, day) := monthAndDay 1 (n - daysBeforeYear year) (monthLengths year)
    ofFields? year month day

/-- The day of the week, counted from 0 for Monday. -/
def weekday (d : Date) : Nat :=
  (d.ordinal + 6) % 7

/-- The date as year, month and day with hyphens between them. -/
def text (d : Date) : List Char :=
  paddedDecimal 4 d.year ++ '-' :: paddedDecimal 2 d.month ++ '-' :: paddedDecimal 2 d.day

end Date

def monthNames : List String :=
  ["January", "February", "March", "April", "May", "June", "July", "August", "September",
   "October", "November", "December"]

/-- The names of the days of the week. -/
def dayNames : List String :=
  ["Monday", "Tuesday", "Wednesday", "Thursday", "Friday", "Saturday", "Sunday"]

def monthName (month : Nat) : List Char :=
  (monthNames.getD (month - 1) "").toList

/-- The name of a day of the week, counted from 0 for Monday. -/
def dayName (weekday : Nat) : List Char :=
  (dayNames.getD weekday "").toList

/-- The short form of the name of a month or a day: its first three letters. -/
def shortName (name : List Char) : List Char :=
  name.take 3

end SlideMerge.Calendar
