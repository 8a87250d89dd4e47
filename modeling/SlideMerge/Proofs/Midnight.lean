import SlideMerge.Proofs.DateSystems
import SlideMerge.Proofs.Exact

/-!
# The last half-millisecond of a day

The fraction of a serial is a time of day in whole milliseconds, and it is rounded to these before
the day is looked at. So the last half-millisecond of a day is the midnight that ends it, and the
serial denotes the beginning of the next day.

**Rounding keeps the order** (`ofRat_mono`), so the fractions that are rounded to a whole day are
those from some point on. The fraction of a double is a multiple of `2^-53` or less than a half
(`fraction_units`), and the two multiples on either side of that point are computed: the point is
half a millisecond before midnight, exactly (`microsOfDay_eq_iff`).

**The day.** A serial from 1 on denotes the day of its whole part, with the time of day, unless it
is past that point; then it denotes the next day, if there is one (`countFrom_eq_next?`).

Main result: `serialToDate?_fraction`.
-/

namespace SlideMerge.Numeric

/-! ## Rounding keeps the order -/

theorem roundEven_mono {p q : Rat} (h : p ≤ q) : roundEven p ≤ roundEven q := by
  have floors : p.floor ≤ q.floor := Rat.le_floor_iff.2 ((Rat.floor_le p).trans h)
  rcases floors.lt_or_eq with less | same
  · have low := (floor_le_roundEven p).2
    have high := (floor_le_roundEven q).1
    omega
  · by_cases lower : p - p.floor < 1 / 2
    · have down : roundEven p = p.floor := if_pos lower
      rw [down, same]
      exact (floor_le_roundEven q).1
    · by_cases upper : 1 / 2 < q - q.floor
      · have up : roundEven q = q.floor + 1 := (if_neg (not_lt.2 upper.le)).trans (if_pos upper)
        rw [up, ← same]
        exact (floor_le_roundEven p).2
      · -- Neither is below the middle of the two integers, nor above it.
        have middle : p = q := by
          rw [same] at lower
          linarith
        rw [middle]

namespace Double

/-- A larger magnitude is not rounded to a smaller one. On a coarser grid it is rounded to no less
than the power of two that all numbers on the finer grids are rounded to at the most. -/
theorem roundedMagnitude_mono {p q : Rat} (hp : 0 < p) (h : p ≤ q) :
    roundedMagnitude p ≤ roundedMagnitude q := by
  have hq : 0 < q := hp.trans_le h
  have grids : gridExponent p ≤ gridExponent q := by
    have logs : Int.log 2 p ≤ Int.log 2 q := Int.log_mono_right hp h
    rw [gridExponent, gridExponent, log2Floor_eq hp, log2Floor_eq hq]
    omega
  unfold roundedMagnitude
  rw [abs_of_pos hp, abs_of_pos hq]
  rcases grids.eq_or_lt with same | finer
  · rw [same]
    have scaled := roundEven_mono (div_le_div_of_nonneg_right h (two_zpow_pos (gridExponent q)).le)
    have units := Int.toNat_le_toNat scaled
    exact mul_le_mul_of_nonneg_right (by exact_mod_cast units) (two_zpow_pos _).le
  · have least := neg_le_gridExponent p
    have bits := scaled_lt hp
    have full := le_scaled hq (by omega)
    have few : roundEven (p / 2 ^ gridExponent p) ≤ 2 ^ 53 :=
      roundEven_le_of_le (by push_cast; exact bits.le)
    have many : 2 ^ 52 ≤ roundEven (q / 2 ^ gridExponent q) :=
      le_roundEven (by push_cast; exact full)
    have low : ((roundEven (p / 2 ^ gridExponent p)).toNat : Rat) ≤ 2 ^ 53 := by
      have : (roundEven (p / 2 ^ gridExponent p)).toNat ≤ 2 ^ 53 := by omega
      exact_mod_cast this
    have high : (2 : Rat) ^ 52 ≤ (roundEven (q / 2 ^ gridExponent q)).toNat := by
      have : 2 ^ 52 ≤ (roundEven (q / 2 ^ gridExponent q)).toNat := by omega
      exact_mod_cast this
    calc ((roundEven (p / 2 ^ gridExponent p)).toNat : Rat) * 2 ^ gridExponent p
        ≤ 2 ^ 53 * 2 ^ gridExponent p := mul_le_mul_of_nonneg_right low (two_zpow_pos _).le
      _ = 2 ^ 52 * 2 ^ (gridExponent p + 1) := by rw [zpow_add_one₀ two_ne_zero]; ring
      _ ≤ 2 ^ 52 * 2 ^ gridExponent q :=
        mul_le_mul_of_nonneg_left (zpow_le_zpow_right₀ one_le_two finer) (by positivity)
      _ ≤ _ := mul_le_mul_of_nonneg_right high (two_zpow_pos _).le

/-- **Rounding keeps the order** of numbers that are not negative. -/
theorem ofRat_mono {p q r s : Rat} {zp zq : Bool} (hp : 0 ≤ p) (h : p ≤ q)
    (hr : (ofRat p zp).toRat? = some r) (hs : (ofRat q zq).toRat? = some s) : r ≤ s := by
  rcases hp.eq_or_lt with rfl | positive
  · have zero : r = 0 := by
      rw [ofRat, if_pos rfl, toRat?_zero] at hr
      exact (Option.some.inj hr).symm
    rcases h.eq_or_lt with rfl | above
    · rw [ofRat, if_pos rfl, toRat?_zero] at hs
      rw [zero, ← Option.some.inj hs]
    · rw [zero, toRat?_ofRat above.ne' hs, if_neg (not_lt.2 above.le)]
      exact mul_nonneg (Nat.cast_nonneg _) (two_zpow_pos _).le
  · have above := positive.trans_le h
    rw [toRat?_ofRat positive.ne' hr, toRat?_ofRat above.ne' hs, if_neg (not_lt.2 positive.le),
      if_neg (not_lt.2 above.le)]
    exact roundedMagnitude_mono positive h

/-- So does the product by a number that is not negative. -/
theorem mul_mono {x y c : Double} {p q k r s : Rat} (hx : x.toRat? = some p)
    (hy : y.toRat? = some q)
    (hc : c.toRat? = some k) (hk : 0 ≤ k) (hp : 0 ≤ p) (h : p ≤ q)
    (hr : (x.mul c).toRat? = some r) (hs : (y.mul c).toRat? = some s) : r ≤ s := by
  rw [mul, hx, hc] at hr
  rw [mul, hy, hc] at hs
  exact ofRat_mono (mul_nonneg hp hk) (mul_le_mul_of_nonneg_right h hk) hr hs

/-! ## Fractions of doubles -/

theorem fraction_units {x : Double} {q : Rat} (h : x.toRat? = some q) (nonneg : 0 ≤ q) :
    q - q.floor < 1 / 2 ∨ ∃ k : Int, q - q.floor = k / 2 ^ 53 := by
  obtain ⟨mantissa, exponent, ⟨bits, -⟩, value⟩ := exists_canonical_of_toRat? h
  rw [abs_of_nonneg nonneg] at value
  by_cases fine : -53 ≤ exponent
  · right
    obtain ⟨j, hj⟩ := Int.eq_ofNat_of_zero_le (show 0 ≤ exponent + 53 by omega)
    have units : q * 2 ^ 53 = ((mantissa * 2 ^ j : Nat) : Int) := by
      have power : (2 : Rat) ^ exponent * 2 ^ 53 = 2 ^ j := by
        rw [← zpow_natCast 2 53, ← zpow_natCast 2 j, ← zpow_add₀ two_ne_zero, ← hj]
        rfl
      rw [value, mul_assoc, power]
      push_cast
      rfl
    refine ⟨(mantissa * 2 ^ j : Nat) - q.floor * 2 ^ 53, ?_⟩
    rw [eq_div_iff (by positivity), sub_mul, units]
    push_cast
    rfl
  · left
    have small : q < 1 / 2 := by
      have power : (2 : Rat) ^ exponent ≤ 2 ^ (-54 : Int) :=
        zpow_le_zpow_right₀ one_le_two (by omega)
      have bits : (mantissa : Rat) < 2 ^ 53 := by exact_mod_cast bits
      calc q = mantissa * 2 ^ exponent := value
        _ < 2 ^ 53 * 2 ^ exponent := mul_lt_mul_of_pos_right bits (two_zpow_pos _)
        _ ≤ 2 ^ 53 * 2 ^ (-54 : Int) := mul_le_mul_of_nonneg_left power (by positivity)
        _ = 1 / 2 := by norm_num
    have today : 0 ≤ q.floor := Rat.le_floor_iff.2 (by exact_mod_cast nonneg)
    have today : (0 : Rat) ≤ q.floor := by exact_mod_cast today
    linarith

end Double

end SlideMerge.Numeric

namespace SlideMerge.Calendar

/-! ## The next day -/

namespace Date

/-- The day after a day, if the calendar reaches it. -/
def next? (d : Date) : Option Date :=
  ofOrdinal? (d.ordinal + 1)

theorem next?_sameMonth_iff (d : Date) :
    (∃ e, d.next? = some e ∧ e.month = d.month ∧ e.year = d.year) ↔
      d.day < daysInMonth d.year d.month := by
  constructor
  · rintro ⟨e, found, month, year⟩
    have number : (d.ordinal : Int) + 1 = e.ordinal := ofOrdinal?_eq_some_iff.1 found
    obtain ⟨-, -, -, -, -, high⟩ := e.isDate
    rw [month, year] at high
    simp only [ordinal, month, year] at number
    omega
  · intro within
    obtain ⟨y, y', m, m', -⟩ := d.isDate
    refine ⟨⟨d.year, d.month, d.day + 1, y, y', m, m', Nat.succ_pos _, within⟩, ?_, rfl, rfl⟩
    rw [next?, ofOrdinal?_eq_some_iff]
    simp only [ordinal]
    push_cast
    ring

end Date

theorem DateTime.ofInstant?_days (n : Int) :
    ofInstant? (n * microsPerDay) = (Date.ofOrdinal? (n + 1)).map ofDate := by
  have positive : (0 : Int) < microsPerDay := by decide
  have begun : (n * microsPerDay % microsPerDay).toNat = 0 := by
    rw [Int.mul_emod_left, Int.toNat_zero]
  simp only [ofInstant?, Int.mul_ediv_cancel n positive.ne', begun, dif_pos microsPerDay_pos]
  cases Date.ofOrdinal? (n + 1) <;> rfl

end SlideMerge.Calendar

namespace SlideMerge.Sheet

open Numeric Calendar Format

/-! ## The milliseconds of a fraction -/

theorem millisOfFraction_mono {a b : Rat} (low : 0 ≤ a) (h : a ≤ b) (high : b ≤ 1) :
    millisOfFraction (.ofRat a false) ≤ millisOfFraction (.ofRat b false) := by
  have seconds : (Double.ofRat 86400 false).toRat? = some ((86400 : Nat) : Rat) := by decide +kernel
  have millis : (Double.ofRat 1000 false).toRat? = some ((1000 : Nat) : Rat) := by decide +kernel
  have within {f : Rat} (nonneg : 0 ≤ f) (most : f ≤ 1) :
      (Double.ofRat f false).Within false 2 := by
    have side : 0 ≤ if false then -f else f := nonneg
    refine Double.within_ofRat (by decide) ?_ side false
    rw [abs_of_nonneg nonneg]
    push_cast
    linarith
  have wa := within low (h.trans high)
  have wb := within (low.trans h) high
  obtain ⟨p, hp, -, p0⟩ := id wa
  obtain ⟨q, hq, -⟩ := id wb
  obtain ⟨p', hp', -, p0'⟩ := wa.mul seconds (by decide)
  obtain ⟨q', hq', -⟩ := wb.mul seconds (by decide)
  obtain ⟨p'', hp'', -⟩ := (wa.mul seconds (by decide)).mul millis (by decide)
  obtain ⟨q'', hq'', -⟩ := (wb.mul seconds (by decide)).mul millis (by decide)
  have days : p ≤ q := Double.ofRat_mono low h hp hq
  have secs : p' ≤ q' := Double.mul_mono hp hq seconds (Nat.cast_nonneg _) p0 days hp' hq'
  have units : p'' ≤ q'' := Double.mul_mono hp' hq' millis (Nat.cast_nonneg _) p0' secs hp'' hq''
  rw [millisOfFraction, millisOfFraction, nearestInt_eq hp'', nearestInt_eq hq'']
  exact roundEven_mono units

/-- Half a millisecond before midnight, as a fraction of a day. -/
def lastHalfMilli : Rat :=
  1 - 1 / (4 * millisPerHalfDay)

/-- The least multiple of `2^-53` that is not before it. -/
def firstCarried : Int :=
  2 ^ 53 - 52124995

theorem millis_firstCarried :
    millisOfFraction (.ofRat (firstCarried / 2 ^ 53) false) = 2 * millisPerHalfDay := by
  decide +kernel

theorem millis_before_firstCarried :
    millisOfFraction (.ofRat ((firstCarried - 1 : Int) / 2 ^ 53) false) =
      2 * millisPerHalfDay - 1 := by
  decide +kernel

theorem lastHalfMilli_le_iff (k : Int) : lastHalfMilli ≤ k / 2 ^ 53 ↔ firstCarried ≤ k := by
  rw [lastHalfMilli, firstCarried, millisPerHalfDay, le_div_iff₀ (by positivity)]
  constructor
  · intro h
    have scaled : (172799999 : Rat) * 2 ^ 53 ≤ 172800000 * k := by
      push_cast at h
      linarith
    have scaled : (172799999 : Int) * 2 ^ 53 ≤ 172800000 * k := by exact_mod_cast scaled
    omega
  · intro h
    have scaled : (172799999 : Int) * 2 ^ 53 ≤ 172800000 * k := by omega
    have scaled : (172799999 : Rat) * 2 ^ 53 ≤ 172800000 * k := by exact_mod_cast scaled
    push_cast
    linarith

/-- **The milliseconds are those of a whole day in the last half-millisecond,** and only there. -/
theorem microsOfDay_eq_iff {x : Double} {q : Rat} (h : x.toRat? = some q) (nonneg : 0 ≤ q) :
    microsOfDay q = microsPerDay ↔ lastHalfMilli ≤ q - q.floor := by
  obtain ⟨low, high⟩ := fraction_bounds q
  have bound := (microsOfDay_bounds q).2
  have day : (microsPerDay : Int) = 2 * millisPerHalfDay * microsPerMilli := by decide
  have milli : (microsPerMilli : Int) = 1000 := rfl
  constructor
  · intro full
    by_contra early
    have before : q - q.floor ≤ (firstCarried - 1 : Int) / 2 ^ 53 := by
      rcases Double.fraction_units h nonneg with half | ⟨k, units⟩
      · refine half.le.trans ?_
        rw [firstCarried]
        norm_num
      · rw [units, lastHalfMilli_le_iff] at early
        rw [units]
        have last : k ≤ firstCarried - 1 := by omega
        exact div_le_div_of_nonneg_right (by exact_mod_cast last) (by positivity)
    have less := millisOfFraction_mono low before (by rw [firstCarried]; norm_num)
    rw [millis_before_firstCarried] at less
    rw [microsOfDay, day, milli] at full
    omega
  · intro late
    have after : (firstCarried : Rat) / 2 ^ 53 ≤ q - q.floor := by
      rcases Double.fraction_units h nonneg with half | ⟨k, units⟩
      · have half' : (1 : Rat) / 2 ≤ lastHalfMilli := by
          rw [lastHalfMilli, millisPerHalfDay]
          norm_num
        linarith
      · rw [units, lastHalfMilli_le_iff] at late
        rw [units]
        exact div_le_div_of_nonneg_right (by exact_mod_cast late) (by positivity)
    have more := millisOfFraction_mono (by rw [firstCarried]; norm_num) after high.le
    rw [millis_firstCarried] at more
    rw [microsOfDay, day, milli] at bound ⊢
    omega

/-! ## The day of a serial -/

theorem floor_eq_zero {q : Rat} (nonneg : 0 ≤ q) (below : q < 1) : q.floor = 0 := by
  have low : 0 ≤ q.floor := Rat.le_floor_iff.2 (by exact_mod_cast nonneg)
  have high : q.floor < 1 := Rat.floor_lt_iff.2 (by exact_mod_cast below)
  omega

theorem dayZero_floor (system : DateSystem) {q : Rat} (dated : 1 ≤ q) :
    dayZero system q.floor = dayZero system q := by
  have less : (q.floor : Rat) < 60 ↔ q < 60 := by
    have whole : q.floor < 60 ↔ q < ((60 : Int) : Rat) := Rat.floor_lt_iff
    exact_mod_cast whole
  have past : (0 : Rat) < q.floor := by
    have past : 1 ≤ q.floor := Rat.le_floor_iff.2 (by exact_mod_cast dated)
    exact_mod_cast Int.lt_of_lt_of_le Int.zero_lt_one past
  simp only [dayZero, less, past, zero_lt_one.trans_le dated]

theorem microsOfDay_intCast (n : Int) : microsOfDay n = 0 := by
  have zero : Double.ofRat 0 false = .zero false := rfl
  rw [microsOfDay, Rat.floor_intCast, Rat.sub_self, zero, millisOfFraction_zero, Int.zero_mul]

theorem countFrom_intCast (base : Nat) (n : Int) :
    countFrom base n = (Date.ofOrdinal? (base + n)).map .ofDate := by
  rw [countFrom, Rat.floor_intCast, microsOfDay_intCast]
  simp only [DateTime.addMicros?_zero]
  cases Date.ofOrdinal? (base + n) <;> rfl

section Count

variable {base : Nat} {q : Rat} {d : Date} (day : base + q.floor = d.ordinal)

include day

/-- Before the last half-millisecond the fraction is a time of the day. -/
theorem countFrom_eq_some_of_lt (within : microsOfDay q < microsPerDay) :
    ∃ time : TimeOfDay, (time.micros : Int) = microsOfDay q ∧
      countFrom base q = some ⟨d, time⟩ := by
  have low := (microsOfDay_bounds q).1
  have first := d.one_le_ordinal
  refine ⟨⟨(microsOfDay q).toNat, by omega⟩, Int.toNat_of_nonneg low, countFrom_eq_some day ?_⟩
  rw [DateTime.instant, Int.natCast_add, Int.natCast_mul, Int.toNat_of_nonneg low,
    Int.natCast_sub first, Int.natCast_one]

theorem countFrom_eq_next? (full : microsOfDay q = microsPerDay) :
    countFrom base q = d.next?.map .ofDate := by
  have end_ : ((d.ordinal : Int) - 1) * microsPerDay + microsPerDay = d.ordinal * microsPerDay := by
    ring
  rw [countFrom, Date.ofOrdinal?_eq_some_iff.2 day, Option.bind_eq_bind, Option.bind_some,
    DateTime.addMicros?_ofDate, full, end_, DateTime.ofInstant?_days, Date.next?]

end Count

section Readings

variable {serial : Number} {q : Rat} (h : serial.value? = some q)

include h

/-- **A serial from 1 on denotes a count of days.** -/
theorem serialToDate?_eq_countFrom (system : DateSystem) (dated : 1 ≤ q) :
    serialToDate? system serial = countFrom (dayZero system q) q := by
  have past : 1 ≤ q.floor := Rat.le_floor_iff.2 (by exact_mod_cast dated)
  have nonneg : 0 ≤ q := zero_le_one.trans dated
  rw [serialToDate?, isNegative_eq_false h nonneg, if_neg Bool.false_ne_true,
    decode?_eq_count h system, dif_neg fun timed => absurd timed.1 (by omega)]
  cases countFrom (dayZero system q) q <;> rfl

/-- Below 1 a serial of the 1900 system denotes nothing, unless it is rounded up to the first
day. -/
theorem serialToDate?_below_one (nonneg : 0 ≤ q) (below : q < 1) :
    serialToDate? .from1900 serial =
      if microsOfDay q = microsPerDay then some (.ofDate firstDay1900) else none := by
  have today := floor_eq_zero nonneg below
  obtain ⟨low, high⟩ := microsOfDay_bounds q
  have early : q < 60 := by linarith
  rw [serialToDate?, isNegative_eq_false h nonneg, if_neg Bool.false_ne_true,
    decode?_eq_count h .from1900]
  by_cases full : microsOfDay q = microsPerDay
  · have positive : 0 < q := by
      refine nonneg.lt_of_ne ?_
      rintro rfl
      rw [← Int.cast_zero, microsOfDay_intCast] at full
      exact absurd full (by decide)
    have day : (dayZero .from1900 q : Int) + q.floor =
        (⟨1899, 12, 31, by decide⟩ : Date).ordinal := by
      rw [today, dayZero, if_pos ⟨rfl, positive, early⟩]
      decide
    have next : (⟨1899, 12, 31, by decide⟩ : Date).next? = some firstDay1900 := by decide +kernel
    rw [if_pos full, dif_neg fun timed => absurd timed.2.2 full.not_lt,
      countFrom_eq_next? day full, next]
    rfl
  · rw [if_neg full, dif_pos ⟨today, low, lt_of_le_of_ne high full⟩]
    rfl

end Readings

/-- **The fraction of a serial is a time of day up to the last half-millisecond.** Let the whole
part of a serial from 1 on denote a point in time. Up to the last half-millisecond of its day the
serial denotes the same day, with its fraction in milliseconds as the time of day. From there on it
denotes the beginning of the next day, if the calendar has one. So it has the year and the month of
its whole part unless it is in the last half-millisecond of a month. Below 1 a serial of the 1900
system denotes nothing up to the last half-millisecond, and then the first day of the system. -/
theorem serialToDate?_fraction {x : Double} {q : Rat} (h : x.toRat? = some q) :
    (∀ system t, 1 ≤ q → serialToDate? system (.integer q.floor) = some t →
      t = .ofDate t.date ∧
      (q - q.floor < lastHalfMilli → ∃ time : TimeOfDay, (time.micros : Int) = microsOfDay q ∧
        serialToDate? system (.real x) = some ⟨t.date, time⟩) ∧
      (lastHalfMilli ≤ q - q.floor → serialToDate? system (.real x) = t.date.next?.map .ofDate) ∧
      ((∃ u, serialToDate? system (.real x) = some u ∧ u.date.month = t.date.month ∧
          u.date.year = t.date.year) ↔
        (lastHalfMilli ≤ q - q.floor → t.date.day < daysInMonth t.date.year t.date.month))) ∧
    (0 ≤ q → q < 1 → serialToDate? .from1900 (.real x) =
      if lastHalfMilli ≤ q then some (.ofDate firstDay1900) else none) := by
  have value : (Number.real x).value? = some q := h
  constructor
  · intro system t dated whole
    have nonneg : 0 ≤ q := zero_le_one.trans dated
    have past : (1 : Rat) ≤ q.floor := by
      have past : 1 ≤ q.floor := Rat.le_floor_iff.2 (by exact_mod_cast dated)
      exact_mod_cast past
    have integral : (Number.integer q.floor).value? = some (q.floor : Rat) := rfl
    rw [serialToDate?_eq_countFrom integral system past, dayZero_floor system dated,
      countFrom_intCast] at whole
    obtain ⟨d, found, rfl⟩ := Option.map_eq_some_iff.1 whole
    have day := Date.ofOrdinal?_eq_some_iff.1 found
    rw [serialToDate?_eq_countFrom value system dated]
    have carried := microsOfDay_eq_iff h nonneg
    have date : (DateTime.ofDate d).date = d := rfl
    rw [date]
    by_cases late : lastHalfMilli ≤ q - q.floor
    · have next := countFrom_eq_next? day (carried.2 late)
      refine ⟨rfl, fun early => absurd late (not_le.2 early), fun _ => next, ?_⟩
      rw [next, ← d.next?_sameMonth_iff, forall_prop_of_true late]
      constructor
      · rintro ⟨u, hu, month, year⟩
        obtain ⟨e, he, rfl⟩ := Option.map_eq_some_iff.1 hu
        exact ⟨e, he, month, year⟩
      · rintro ⟨e, he, month, year⟩
        exact ⟨.ofDate e, by rw [he]; rfl, month, year⟩
    · have within : microsOfDay q < microsPerDay :=
        lt_of_le_of_ne (microsOfDay_bounds q).2 fun full => late (carried.1 full)
      obtain ⟨time, micros, same⟩ := countFrom_eq_some_of_lt day within
      refine ⟨rfl, fun _ => ⟨time, micros, same⟩, fun h => absurd h late, ?_⟩
      exact iff_of_true ⟨_, same, rfl, rfl⟩ fun h => absurd h late
  · intro nonneg below
    have today := floor_eq_zero nonneg below
    have carried := microsOfDay_eq_iff h nonneg
    rw [today, Int.cast_zero, sub_zero] at carried
    simp only [serialToDate?_below_one value nonneg below, carried]

/-- The last moment of March is the first of April. -/
theorem serialToDate?_fraction_endOfMarch :
    (Double.ofRat (45383 - 1 / 2 ^ 30) false).toRat? = some (45383 - 1 / 2 ^ 30) ∧
      serialToDate? .from1900 (.integer (45383 - 1 / 2 ^ 30 : Rat).floor) =
        some (.ofDate ⟨2024, 3, 31, by decide⟩) ∧
      serialToDate? .from1900 (.real (.ofRat (45383 - 1 / 2 ^ 30) false)) =
        some (.ofDate ⟨2024, 4, 1, by decide⟩) := by
  have value : (Double.ofRat (45383 - 1 / 2 ^ 30) false).toRat? = some (45383 - 1 / 2 ^ 30) := by
    decide +kernel
  have whole : serialToDate? .from1900 (.integer (45383 - 1 / 2 ^ 30 : Rat).floor) =
      some (.ofDate ⟨2024, 3, 31, by decide⟩) := by
    decide +kernel
  have late : lastHalfMilli ≤ 45383 - 1 / 2 ^ 30 - ((45383 - 1 / 2 ^ 30 : Rat).floor : Rat) := by
    decide +kernel
  have next := ((serialToDate?_fraction value).1 .from1900 _ (by norm_num) whole).2.2.1 late
  exact ⟨value, whole, next.trans (by decide +kernel)⟩

/-- **A fraction can be more than a time of day.** A serial below 1 denotes the first day of the
1900 system, and a serial whose whole part is the last of March denotes the first of April. -/
theorem exists_fraction_carried :
    (∃ (x : Double) (q : Rat), x.toRat? = some q ∧ 0 ≤ q ∧ q < 1 ∧
      serialToDate? .from1900 (.real x) = some (.ofDate firstDay1900)) ∧
    ∃ (x : Double) (q : Rat) (march april : DateTime), x.toRat? = some q ∧ 1 ≤ q ∧
      serialToDate? .from1900 (.integer q.floor) = some march ∧ march.date.month = 3 ∧
      serialToDate? .from1900 (.real x) = some april ∧ april.date.month = 4 := by
  constructor
  · refine ⟨.ofRat (9999999999 / 10000000000) false, 562949953365017 / 562949953421312, ?_⟩
    decide +kernel
  · refine ⟨.ofRat (45382999999999 / 1000000000) false, 6237392025419639 / 137438953472,
      .ofDate ⟨2024, 3, 31, by decide⟩, .ofDate ⟨2024, 4, 1, by decide⟩, ?_⟩
    decide +kernel

end SlideMerge.Sheet
