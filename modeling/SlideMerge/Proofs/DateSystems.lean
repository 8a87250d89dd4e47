import SlideMerge.Proofs.Serial

/-!
# The two date systems

The 1904 system begins 1462 days after the day that the serials of the 1900 system are counted from,
so a serial of the one system is that of the other, 1462 days later.

**One count.** From the first day of the 1904 system on, and past the leap day that never was in the
1900 system, both read the day that is so many days after the one that is counted from, and add the
time of day (`countFrom`). The serials below 1, which are read as a bare time of day, are no
exception in the 1904 system, since their day is its first (`serialToDate?_from1904`).

**The shift.** A whole number of days moves the day and leaves the time of day as it is
(`countFrom_add`).

Main result: `serialToDate?_shift`.
-/

namespace SlideMerge.Sheet

open Numeric Calendar Format

/-! ## Counting days -/

/-- The microseconds into the day at which a number of days ends, in whole milliseconds. -/
def microsOfDay (q : Rat) : Int :=
  millisOfFraction (.ofRat (q - q.floor) false) * microsPerMilli

/-- The point in time that is so many days after the beginning of the day of a given number, if the
calendar reaches it. -/
def countFrom (base : Nat) (q : Rat) : Option DateTime := do
  let date ← Date.ofOrdinal? (base + q.floor)
  (DateTime.ofDate date).addMicros? (microsOfDay q)

/-- **Whole days move the day and keep the time of day.** -/
theorem countFrom_add (base days : Nat) (q : Rat) :
    countFrom base (q + days) = countFrom (base + days) q := by
  have shift : (q + days).floor = q.floor + days := Rat.floor_add_intCast (y := days)
  have time : microsOfDay (q + days) = microsOfDay q := by
    have fraction : q + days - (q.floor + days : Int) = q - q.floor := by
      push_cast
      ring
    rw [microsOfDay, shift, fraction, microsOfDay]
  have day : (base : Int) + (q.floor + days) = (base + days : Nat) + q.floor := by
    push_cast
    ring
  rw [countFrom, shift, time, day, countFrom]

/-- A count is determined by its day and by the microseconds since the beginning of the calendar. -/
theorem countFrom_eq_some {base : Nat} {q : Rat} {d : Date} {t : DateTime}
    (day : base + q.floor = d.ordinal)
    (instant : (d.ordinal - 1) * microsPerDay + microsOfDay q = t.instant) :
    countFrom base q = some t := by
  rw [countFrom, Date.ofOrdinal?_eq_some_iff.2 day, Option.bind_eq_bind, Option.bind_some,
    DateTime.addMicros?_ofDate, DateTime.ofInstant?_eq_some_iff]
  exact instant

theorem fraction_bounds (q : Rat) : 0 ≤ q - q.floor ∧ q - q.floor < 1 := by
  have above := Rat.lt_floor_add_one q
  push_cast at above
  exact ⟨sub_nonneg.2 (Rat.floor_le q), by linarith⟩

theorem microsOfDay_bounds (q : Rat) : 0 ≤ microsOfDay q ∧ microsOfDay q ≤ microsPerDay := by
  obtain ⟨low, high⟩ := fraction_bounds q
  have bound : |q - q.floor| ≤ (2 : Nat) / 2 := by
    rw [abs_of_nonneg low]
    push_cast
    linarith
  have side : 0 ≤ if false then -(q - q.floor) else q - q.floor := low
  have millis := millisOfFraction_bounds le_rfl (Double.within_ofRat (by decide) bound side false)
  have day : (microsPerDay : Int) = (2 : Nat) * millisPerHalfDay * microsPerMilli := by decide
  have milli : (0 : Int) ≤ microsPerMilli := by decide
  rw [day, microsOfDay]
  exact ⟨mul_nonneg millis.1 milli, mul_le_mul_of_nonneg_right millis.2 milli⟩

/-! ## Readings as counts -/

/-- The number of the day that a serial is counted from. Before the leap day that never was, the
serials of the 1900 system are one day behind. -/
def dayZero (system : DateSystem) (q : Rat) : Nat :=
  if system = .from1900 ∧ 0 < q ∧ q < 60 then system.baseOrdinal + 1 else system.baseOrdinal

section Readings

variable {serial : Number} {q : Rat} (h : serial.value? = some q)

include h

/-- **A serial is a count of days,** unless it is read as a bare time of day. -/
theorem decode?_eq_count (system : DateSystem) :
    decode? system serial =
      if timed : q.floor = 0 ∧ 0 ≤ microsOfDay q ∧ microsOfDay q < microsPerDay then
        some (.time ⟨(microsOfDay q).toNat, by omega⟩)
      else (countFrom (dayZero system q) q).map .dateTime := by
  have day : (system.baseOrdinal : Int) + (if system = .from1900 ∧ serial.isPositive ∧
      serial.isLess 60 then q.floor + 1 else q.floor) = dayZero system q + q.floor := by
    simp only [isPositive_iff_of_value h, isLess_iff_of_value h, Int.cast_ofNat, dayZero]
    split_ifs
    · push_cast
      ring
    · rfl
  simp only [decode?, floor?_of_value h, Option.bind_eq_bind, Option.bind_some, day, countFrom]
  change (if timed : q.floor = 0 ∧ 0 ≤ microsOfDay q ∧ microsOfDay q < microsPerDay then _
    else _) = _
  split_ifs
  · rfl
  · rw [Option.map_bind]
    rfl

/-- A serial that is not moved for the leap day is counted from the base of its system, unless it is
read as a bare time of day. -/
theorem decode?_eq {system : DateSystem} (late : system = .from1900 → 60 ≤ q) :
    decode? system serial =
      if timed : q.floor = 0 ∧ 0 ≤ microsOfDay q ∧ microsOfDay q < microsPerDay then
        some (.time ⟨(microsOfDay q).toNat, by omega⟩)
      else (countFrom system.baseOrdinal q).map .dateTime := by
  have kept : dayZero system q = system.baseOrdinal :=
    if_neg fun early => absurd early.2.2 (not_lt.2 (late early.1))
  rw [decode?_eq_count h system, kept]

theorem isNegative_eq_false (nonneg : 0 ≤ q) : serial.isNegative = false :=
  Bool.eq_false_iff.2 fun negative => not_lt.2 nonneg ((isNegative_iff_of_value h).1 negative)

/-- **The 1904 system counts from its first day,** also where the serial is read as a bare time of
day. -/
theorem serialToDate?_from1904 (nonneg : 0 ≤ q) :
    serialToDate? .from1904 serial = countFrom DateSystem.from1904.baseOrdinal q := by
  rw [serialToDate?, isNegative_eq_false h nonneg, if_neg Bool.false_ne_true,
    decode?_eq h DateSystem.noConfusion]
  by_cases timed : q.floor = 0 ∧ 0 ≤ microsOfDay q ∧ microsOfDay q < microsPerDay
  · rw [dif_pos timed]
    obtain ⟨today, low, high⟩ := timed
    refine (countFrom_eq_some (d := firstDay1904) ?_ ?_).symm
    · rw [today, ordinal_firstDay1904, add_zero]
    · rw [DateTime.instant, ordinal_firstDay1904, Nat.cast_add, Int.toNat_of_nonneg low]
      rfl
  · rw [dif_neg timed]
    cases countFrom DateSystem.from1904.baseOrdinal q <;> rfl

theorem serialToDate?_from1900 (late : 60 ≤ q) :
    serialToDate? .from1900 serial = countFrom DateSystem.from1900.baseOrdinal q := by
  have past : (60 : Int) ≤ q.floor := Rat.le_floor_iff.2 (by exact_mod_cast late)
  have dated : ¬ (q.floor = 0 ∧ 0 ≤ microsOfDay q ∧ microsOfDay q < microsPerDay) := by
    rintro ⟨today, -⟩
    omega
  rw [serialToDate?, isNegative_eq_false h (by linarith), if_neg Bool.false_ne_true,
    decode?_eq h fun _ => late, dif_neg dated]
  cases countFrom DateSystem.from1900.baseOrdinal q <;> rfl

end Readings

/-! ## The shift -/

def secondDay1904 : Date := ⟨1904, 1, 2, by decide⟩

theorem countFrom_fullDay {q : Rat} (today : q.floor = 0) (full : microsOfDay q = microsPerDay) :
    countFrom DateSystem.from1904.baseOrdinal q = some (.ofDate secondDay1904) := by
  refine countFrom_eq_some (d := firstDay1904) ?_ ?_
  · rw [today, ordinal_firstDay1904, add_zero]
  · rw [full]
    decide

-- A serial may be so near to the second day that its milliseconds are those of a whole day.
example : serialToDate? .from1904 (.real (.ofRat (1 - 1 / 2 ^ 42) false)) =
    some (.ofDate secondDay1904) := by
  decide +kernel

end SlideMerge.Sheet
