import SlideMerge.Proofs.Calendar
import SlideMerge.Proofs.Rounding
import SlideMerge.Sheet.Serial

/-!
# Serials of days, and their two readings

**Days.** Each day from the first year of a date system on has a serial, and is read from it again,
also the days before the leap day that never was, and the first day of the 1904 system, whose serial
is 0 (`serialToDate?_serialOf`).

**Values.** What a serial is read as depends on its exact value only, not on whether it is an
integer or a double (`decode?_of_value`).

**The two readings.** The current format splits a serial at its floor and the legacy format at its
integral part; the one goes through seconds to milliseconds, and the other does not; and they
disagree on which serials lie before the leap day. What the current format reads as a point in time
is read by the legacy format as well, if the milliseconds come out alike, and in the 1900 system if
the serial is positive (`legacyDecode?_iff_of_decode?`).
-/

namespace SlideMerge.Format

open Numeric

/-- The exact value of a number, if it is finite. -/
def Number.value? : Number → Option Rat
  | logical b => some b.toInt
  | integer n => some n
  | real x => x.toRat?

end SlideMerge.Format

namespace SlideMerge.Sheet

open Numeric Calendar Format

/-! ## Serials of days -/

/-- The days from one day to another. -/
def daysSince (first d : Date) : Int :=
  (d.ordinal : Int) - first.ordinal

def firstDay1900 : Date := ⟨1900, 1, 1, by decide⟩

/-- The serial of a day. The 1900 system begins with 1, and leaves out 60 for the leap day that
never was; the 1904 system begins with 0. -/
def DateSystem.serialOf (d : Date) : DateSystem → Int
  | from1900 =>
    if d.year = 1900 ∧ d.month ≤ 2 then daysSince firstDay1900 d + 1
    else daysSince firstDay1900 d + 2
  | from1904 => daysSince firstDay1904 d

theorem ordinal_firstDay1900 : firstDay1900.ordinal = 693596 := by
  decide

theorem millisOfFraction_zero : millisOfFraction (.zero false) = 0 := by
  decide +kernel

theorem decode?_zero (system : DateSystem) :
    decode? system (.integer 0) = some (.time .midnight) := by
  simp only [decode?, DayCount.floor?, Option.bind_eq_bind, Option.bind_some, millisOfFraction_zero]
  rfl

/-- An integral serial is a day count, but for those of the 1900 system before the leap day. -/
theorem decode?_integer {system : DateSystem} {n : Int} (hn : n ≠ 0) {d : Date}
    (h : system.baseOrdinal + (if system = .from1900 ∧ 0 < n ∧ n < 60 then n + 1 else n) =
      (d.ordinal : Int)) :
    decode? system (.integer n) = some (.dateTime (.ofDate d)) := by
  have day := Date.ofOrdinal?_eq_some_iff.2 h
  simp only [decode?, DayCount.floor?, Option.bind_eq_bind, Option.bind_some, millisOfFraction_zero,
    Int.zero_mul, hn, false_and, dite_false, Number.isPositive, Number.isLess, decide_eq_true_eq,
    day, DateTime.addMicros?_zero, Option.map_some]

theorem serialOf_early {d : Date} (h : d.year = 1900 ∧ d.month ≤ 2) :
    0 < DateSystem.from1900.serialOf d ∧ DateSystem.from1900.serialOf d < 60 ∧
      DateSystem.from1900.baseOrdinal + (DateSystem.from1900.serialOf d + 1) = d.ordinal := by
  have before : daysBeforeYear 1900 = 693595 := by decide
  have months : ∀ month ≤ 2, daysBeforeMonth 1900 month + daysInMonth 1900 month ≤ 59 := by decide
  rw [DateSystem.serialOf, if_pos h, daysSince, ordinal_firstDay1900, DateSystem.baseOrdinal]
  obtain ⟨year, month, day, isDate⟩ := d
  obtain ⟨rfl, early⟩ := h
  obtain ⟨-, -, -, -, hd, hd'⟩ := id isDate
  have short := months month early
  simp only [Date.ordinal, before]
  omega

theorem serialOf_late {d : Date} (h : 1900 ≤ d.year) (late : ¬ (d.year = 1900 ∧ d.month ≤ 2)) :
    60 < DateSystem.from1900.serialOf d ∧
      DateSystem.from1900.baseOrdinal + DateSystem.from1900.serialOf d = d.ordinal := by
  have before : daysBeforeYear 1900 = 693595 ∧ daysBeforeYear 1901 = 693960 := by decide
  have months : ∀ month ≤ 12, 2 < month → 59 ≤ daysBeforeMonth 1900 month := by decide
  have days : 693654 < d.ordinal := by
    rcases Nat.eq_or_lt_of_le h with same | later
    · obtain ⟨year, month, day, isDate⟩ := d
      obtain rfl : 1900 = year := same
      have spring : 2 < month := Nat.not_le.1 fun early => late ⟨rfl, early⟩
      obtain ⟨-, -, -, hm, hd, -⟩ := id isDate
      have long := months month hm spring
      simp only [Date.ordinal, before.1]
      omega
    · have begun : daysBeforeYear 1901 ≤ daysBeforeYear d.year := daysBeforeYear_mono later
      have within := d.daysBeforeYear_lt_ordinal
      omega
  rw [DateSystem.serialOf, if_neg late, daysSince, ordinal_firstDay1900, DateSystem.baseOrdinal]
  omega

theorem serialOf_from1904 (d : Date) :
    DateSystem.from1904.baseOrdinal + DateSystem.from1904.serialOf d = d.ordinal := by
  rw [DateSystem.serialOf, daysSince, ordinal_firstDay1904]
  omega

theorem isNegative_integer {n : Int} (h : 0 ≤ n) : (Number.integer n).isNegative = false :=
  decide_eq_false (Int.not_lt.2 h)

theorem serialToDate?_integer {system : DateSystem} {n : Int} (h : 0 ≤ n) {t : DateTime}
    (ht : decode? system (.integer n) = some (.dateTime t)) :
    serialToDate? system (.integer n) = some t := by
  simp only [serialToDate?, isNegative_integer h, ht, Bool.false_eq_true, if_false]

/-- **A day is read from its serial**, from the first year of the date system on. -/
theorem serialToDate?_serialOf {system : DateSystem} {d : Date} (h : system.year ≤ d.year) :
    serialToDate? system (.integer (system.serialOf d)) = some (.ofDate d) := by
  cases system with
  | from1900 =>
    by_cases early : d.year = 1900 ∧ d.month ≤ 2
    · obtain ⟨positive, low, day⟩ := serialOf_early early
      refine serialToDate?_integer positive.le (decode?_integer positive.ne' ?_)
      rwa [if_pos ⟨rfl, positive, low⟩]
    · obtain ⟨high, day⟩ := serialOf_late h early
      have positive : 0 < DateSystem.from1900.serialOf d := by omega
      refine serialToDate?_integer positive.le (decode?_integer positive.ne' ?_)
      rwa [if_neg (by omega)]
  | from1904 =>
    have before : daysBeforeYear 1904 = 695055 := by decide
    have begun : daysBeforeYear 1904 ≤ daysBeforeYear d.year := daysBeforeYear_mono h
    have within := d.daysBeforeYear_lt_ordinal
    have base : DateSystem.from1904.baseOrdinal = 695056 := rfl
    have serial := serialOf_from1904 d
    have nonneg : 0 ≤ DateSystem.from1904.serialOf d := by omega
    by_cases zero : DateSystem.from1904.serialOf d = 0
    · -- Serial 0 is read as a bare time of day, on the first day of the system.
      have day : d = firstDay1904 := Date.ordinal_injective (by
        rw [ordinal_firstDay1904]
        omega)
      rw [zero, day, serialToDate?, decode?_zero]
      rfl
    · refine serialToDate?_integer nonneg (decode?_integer zero ?_)
      rwa [if_neg fun h => DateSystem.noConfusion h.1]

/-! ## Milliseconds -/

theorem nearestInt_eq {x : Double} {r : Rat} (h : x.toRat? = some r) :
    nearestInt x = roundEven r := by
  rw [nearestInt, h]
  rfl

theorem nearestInt_bounds {negative : Bool} {j : Nat} {x : Double}
    (h : Double.Within negative (2 * j) x) :
    if negative then -(j : Int) ≤ nearestInt x ∧ nearestInt x ≤ 0
    else 0 ≤ nearestInt x ∧ nearestInt x ≤ j := by
  obtain ⟨r, hr, bound, side⟩ := h
  have bound : |r| ≤ ((j : Int) : Rat) := by
    rw [Int.cast_natCast]
    calc |r| ≤ ((2 * j : Nat) : Rat) / 2 := bound
      _ = j := by push_cast; ring
  obtain ⟨low, high⟩ := abs_le.1 bound
  rw [nearestInt_eq hr]
  cases negative with
  | true =>
    refine ⟨le_roundEven (by exact_mod_cast low), roundEven_le_of_le ?_⟩
    exact_mod_cast neg_nonneg.1 side
  | false => exact ⟨le_roundEven (by exact_mod_cast side), roundEven_le_of_le high⟩

def millisPerHalfDay : Nat := 43200000

theorem millisOfFraction_bounds {k : Nat} (hk : k ≤ 2) {f : Double} (h : f.Within false k) :
    0 ≤ millisOfFraction f ∧ millisOfFraction f ≤ k * millisPerHalfDay := by
  have seconds : (Double.ofRat 86400 false).toRat? = some ((86400 : Nat) : Rat) := by decide +kernel
  have millis : (Double.ofRat 1000 false).toRat? = some ((1000 : Nat) : Rat) := by decide +kernel
  have product := (h.mul seconds (by omega)).mul millis (by omega)
  rw [show k * 86400 * 1000 = 2 * (k * millisPerHalfDay) by rw [millisPerHalfDay]; ring] at product
  exact_mod_cast nearestInt_bounds product

theorem legacyMillisOfFraction_bounds {k : Nat} (hk : k ≤ 2) {f : Double} (h : f.Within true k) :
    -(k * millisPerHalfDay : Int) ≤ legacyMillisOfFraction f ∧ legacyMillisOfFraction f ≤ 0 := by
  have millis : (Double.ofRat 86400000 false).toRat? = some ((86400000 : Nat) : Rat) := by
    decide +kernel
  have product := h.mul millis (by omega)
  rw [show k * 86400000 = 2 * (k * millisPerHalfDay) by rw [millisPerHalfDay]; ring] at product
  exact_mod_cast nearestInt_bounds product

/-- The milliseconds since serial 0 are the same for both readings. -/
def SameMillis (q : Rat) : Prop :=
  millisOfFraction (.ofRat (q - q.floor) false) + 2 * millisPerHalfDay * q.floor =
    legacyMillisOfFraction (.ofRat (q - truncate q) false) + 2 * millisPerHalfDay * truncate q

theorem sameMillis_intCast (n : Int) : SameMillis n := by
  have whole : truncate (n : Rat) = n := by
    rw [truncate, Rat.floor_intCast, Rat.ceil_intCast, ite_self]
  have zero : Double.ofRat 0 false = .zero false := rfl
  have legacyZero : legacyMillisOfFraction (.zero false) = 0 := by decide +kernel
  rw [SameMillis, whole, Rat.floor_intCast, Rat.sub_self, zero, millisOfFraction_zero, legacyZero]

-- Of a fraction that ends in half a millisecond, the two ways may give neighbours.
example : ¬ SameMillis (4517428414788797 / 2 ^ 52) := by
  rw [SameMillis]
  decide +kernel

/-! ## Numbers by their values -/

section Values

variable {x : Double} {q : Rat}

theorem isPositive_real (h : x.toRat? = some q) : (Number.real x).isPositive ↔ 0 < q := by
  cases x with
  | nan => cases h
  | infinite negative => cases h
  | finite negative mantissa exponent canonical =>
    obtain rfl := Option.some.inj h
    have unit := Double.two_zpow_pos exponent
    by_cases zero : mantissa = 0
    · cases negative <;> simp [Number.isPositive, Double.isNegative, Double.isZero, zero]
    · have positive : (0 : Rat) < mantissa * 2 ^ exponent :=
        mul_pos (by exact_mod_cast Nat.pos_of_ne_zero zero) unit
      cases negative with
      | true => simp [Number.isPositive, Double.isNegative, Double.isZero, zero, positive.le]
      | false => simp [Number.isPositive, Double.isNegative, Double.isZero, zero, positive]

theorem isLess_real (h : x.toRat? = some q) (limit : Int) :
    (Number.real x).isLess limit ↔ q < limit := by
  cases x with
  | nan => cases h
  | infinite negative => cases h
  | finite negative mantissa exponent canonical =>
    rw [Number.isLess, Double.isLess, h]
    simp

end Values

section Serials

variable {serial : Number} {q : Rat} (h : serial.value? = some q)

include h

theorem floor?_of_value : DayCount.floor? serial = some ⟨q.floor, .ofRat (q - q.floor) false⟩ := by
  have whole (n : Int) : Double.ofRat (n - (n : Rat).floor) false = .zero false := by
    rw [Rat.floor_intCast, Rat.sub_self]
    rfl
  cases serial with
  | logical b =>
    obtain rfl := Option.some.inj h
    rw [whole, Rat.floor_intCast]
    rfl
  | integer n =>
    obtain rfl := Option.some.inj h
    rw [whole, Rat.floor_intCast]
    rfl
  | real x =>
    have value : x.toRat? = some q := h
    rw [DayCount.floor?, value]
    rfl

theorem isNegative_iff_of_value : serial.isNegative ↔ q < 0 := by
  cases serial with
  | logical b =>
    obtain rfl := Option.some.inj h
    cases b <;> simp [Number.isNegative]
  | integer n =>
    obtain rfl := Option.some.inj h
    simp [Number.isNegative]
  | real x => exact Double.isNegative_iff h

theorem isPositive_iff_of_value : serial.isPositive ↔ 0 < q := by
  cases serial with
  | logical b =>
    obtain rfl := Option.some.inj h
    cases b <;> simp [Number.isPositive]
  | integer n =>
    obtain rfl := Option.some.inj h
    simp [Number.isPositive]
  | real x => exact isPositive_real h

theorem isLess_iff_of_value (limit : Int) : serial.isLess limit ↔ q < limit := by
  cases serial with
  | logical b =>
    obtain rfl := Option.some.inj h
    rw [Number.isLess, decide_eq_true_eq]
    exact_mod_cast Iff.rfl
  | integer n =>
    obtain rfl := Option.some.inj h
    rw [Number.isLess, decide_eq_true_eq]
    exact_mod_cast Iff.rfl
  | real x => exact isLess_real h limit

theorem decode?_of_value {system : DateSystem} {other : Number} (same : other.value? = some q) :
    decode? system serial = decode? system other := by
  have positive : serial.isPositive = other.isPositive := by
    rw [Bool.eq_iff_iff, isPositive_iff_of_value h, isPositive_iff_of_value same]
  have less : serial.isLess 60 = other.isLess 60 := by
    rw [Bool.eq_iff_iff, isLess_iff_of_value h, isLess_iff_of_value same]
  simp only [decode?, floor?_of_value h, floor?_of_value same, positive, less]

end Serials

theorem toInt?_eq_some_iff {x : Double} {n : Int} :
    x.toInt? = some n ↔ x.toRat? = some (n : Rat) := by
  rw [Double.toInt?]
  cases hx : x.toRat? with
  | none => simp
  | some q =>
    dsimp only
    split_ifs with whole
    · rw [Option.some.injEq, Option.some.injEq]
      constructor
      · rintro rfl
        exact (Rat.den_eq_one_iff q).1 whole |>.symm
      · rintro rfl
        exact Rat.num_intCast n
    · refine iff_of_false (fun h => nomatch h) fun h => whole ?_
      rw [Option.some.inj h]
      exact Rat.den_intCast n

theorem decode?_real_of_toInt? {system : DateSystem} {x : Double} {n : Int}
    (h : x.toInt? = some n) :
    decode? system (.real x) = decode? system (.integer n) := by
  have value : (Number.real x).value? = some (n : Rat) := toInt?_eq_some_iff.1 h
  exact decode?_of_value value rfl

/-! ## The two readings of a serial -/

section Readings

variable {system : DateSystem} {x : Double} {q : Rat} {t : DateTime}

/-- The days by which the 1900 system is behind before the leap day that never was. -/
def leapShift (system : DateSystem) (q : Rat) : Int :=
  if system = .from1900 ∧ q < 60 then 1 else 0

theorem legacyDecode?_real (hx : x.toRat? = some q) :
    legacyDecode? system (.real x) = some t ↔
      (system.baseOrdinal - 1 + leapShift system q + truncate q) * microsPerDay +
        legacyMillisOfFraction (.ofRat (q - truncate q) false) * microsPerMilli = t.instant := by
  have less := isLess_real hx 60
  have base : (if system = .from1900 ∧ (Number.real x).isLess 60 then
      (system.baseOrdinal : Int) + 1 else system.baseOrdinal) - 1 =
        system.baseOrdinal - 1 + leapShift system q := by
    simp only [leapShift, less, Int.cast_ofNat]
    split <;> omega
  simp only [legacyDecode?, DayCount.truncate?, hx, Option.map_some, Option.bind_eq_bind,
    Option.bind_some, base]
  exact DateTime.ofInstant?_eq_some_iff

/-- What the current format reads for a serial that it takes for a point in time. -/
theorem instant_of_decode? (hx : x.toRat? = some q)
    (h : decode? system (.real x) = some (.dateTime t)) :
    q ≠ 0 ∧
    (system.baseOrdinal - 1 + (if 0 < q then leapShift system q else 0) + q.floor) * microsPerDay +
        millisOfFraction (.ofRat (q - q.floor) false) * microsPerMilli = t.instant := by
  have less := isLess_real hx 60
  have positive := isPositive_real hx
  obtain ⟨count, hcount, h⟩ := Option.bind_eq_some_iff.1 h
  obtain rfl : ⟨q.floor, .ofRat (q - q.floor) false⟩ = count := by
    rw [DayCount.floor?, hx] at hcount
    exact Option.some.inj hcount
  have days : (if system = .from1900 ∧ (Number.real x).isPositive ∧ (Number.real x).isLess 60 then
      q.floor + 1 else q.floor) = (if 0 < q then leapShift system q else 0) + q.floor := by
    simp only [leapShift, less, positive, Int.cast_ofNat]
    split_ifs <;> first | omega | tauto
  dsimp only at h
  split at h
  · cases h
  · next timed =>
    rw [days] at h
    obtain ⟨d, hd, h⟩ := Option.bind_eq_some_iff.1 h
    obtain ⟨t', ht, same⟩ := Option.map_eq_some_iff.1 h
    obtain rfl := Moment.dateTime.inj same
    rw [DateTime.addMicros?_ofDate, ← Date.ofOrdinal?_eq_some_iff.1 hd,
      DateTime.ofInstant?_eq_some_iff] at ht
    constructor
    · rintro rfl
      have floor : (0 : Rat).floor = 0 := rfl
      have zero : Double.ofRat 0 false = .zero false := rfl
      refine timed ⟨floor, ?_⟩
      rw [floor, Int.cast_zero, sub_zero, zero, millisOfFraction_zero]
      decide
    · rw [← ht]
      ring

/-- Below zero, the integral part and the floor of a number that is not integral differ by one. -/
theorem truncate_of_neg (h : q < 0) :
    q = q.floor ∨ truncate q = q.floor + 1 := by
  refine or_iff_not_imp_left.2 fun fractional => ?_
  have above := Rat.lt_floor_add_one q
  have below : (q.floor : Rat) < q := lt_of_le_of_ne (Rat.floor_le q) (Ne.symm fractional)
  have low : q.floor < q.ceil := Rat.lt_ceil_iff.2 below
  have high : q.ceil ≤ q.floor + 1 := Rat.ceil_le_iff.2 above.le
  rw [truncate, if_pos h]
  omega

/-- Two days are too much for the fractions of a day to make up for: one of the two is at most a
half. -/
theorem millis_ne_of_neg {a : Rat} (low : 0 ≤ a) (high : a < 1) :
    millisOfFraction (.ofRat a false) ≠
      legacyMillisOfFraction (.ofRat (a - 1) false) + 4 * millisPerHalfDay := by
  have above : |a| = a := abs_of_nonneg low
  have below : |a - 1| = 1 - a := by rw [abs_sub_comm, abs_of_pos (sub_pos.2 high)]
  have aside : (0 : Rat) ≤ if false then -a else a := low
  have bside : (0 : Rat) ≤ if true then -(a - 1) else a - 1 := by
    simpa using high.le
  have half : (millisPerHalfDay : Int) = 43200000 := rfl
  by_cases first : a ≤ 1 / 2
  · have one := (millisOfFraction_bounds (k := 1) (by decide)
      (Double.within_ofRat (by decide) (by rw [above]; push_cast; linarith) aside false)).2
    have two := (legacyMillisOfFraction_bounds (k := 2) (by decide)
      (Double.within_ofRat (by decide) (by rw [below]; push_cast; linarith) bside false)).1
    omega
  · have two := (millisOfFraction_bounds (k := 2) (by decide)
      (Double.within_ofRat (by decide) (by rw [above]; push_cast; linarith) aside false)).2
    have one := (legacyMillisOfFraction_bounds (k := 1) (by decide)
      (Double.within_ofRat (by decide) (by rw [below]; push_cast; linarith) bside false)).1
    omega

/-- Before the first day, the 1900 system of the legacy format is a day ahead. -/
theorem days_ne_of_neg (h : q < 0) :
    millisOfFraction (.ofRat (q - q.floor) false) + 2 * millisPerHalfDay * q.floor ≠
      legacyMillisOfFraction (.ofRat (q - truncate q) false) +
        2 * millisPerHalfDay * (truncate q + 1) := by
  have half : (millisPerHalfDay : Int) = 43200000 := rfl
  rcases truncate_of_neg h with whole | next
  · have same : SameMillis q := whole ▸ sameMillis_intCast q.floor
    rw [SameMillis, half] at same
    rw [half]
    omega
  · have fraction : q - truncate q = q - q.floor - 1 := by
      rw [next]
      push_cast
      ring
    have apart := millis_ne_of_neg (sub_nonneg.2 (Rat.floor_le q))
      (sub_lt_iff_lt_add'.2 (by exact_mod_cast Rat.lt_floor_add_one q))
    rw [half] at apart
    rw [fraction, next, half]
    omega

/-- **A point in time of the current format is read in the legacy format, too, unless it lies before
the first day of the 1900 system**, up to the rounding to milliseconds. -/
theorem legacyDecode?_iff_of_decode? (hx : x.toRat? = some q)
    (h : decode? system (.real x) = some (.dateTime t)) :
    legacyDecode? system (.real x) = some t ↔ (q < 0 → system = .from1904) ∧ SameMillis q := by
  obtain ⟨nonzero, instant⟩ := instant_of_decode? hx h
  have day : (microsPerDay : Int) = 2 * millisPerHalfDay * microsPerMilli := by decide
  have milli : (microsPerMilli : Int) = 1000 := rfl
  rw [legacyDecode?_real hx, ← instant, SameMillis, day, milli]
  rcases lt_or_gt_of_ne nonzero with negative | positive
  · rw [if_neg (not_lt.2 negative.le), leapShift]
    cases system with
    | from1900 =>
      have early : q < 60 := negative.trans (by norm_num)
      rw [if_pos ⟨rfl, early⟩]
      refine iff_of_false (fun same => days_ne_of_neg negative ?_)
        fun apart => DateSystem.noConfusion (apart.1 negative)
      linarith
    | from1904 =>
      rw [if_neg fun h => DateSystem.noConfusion h.1]
      rw [and_iff_right fun _ => rfl]
      constructor <;> intro h <;> linarith
  · rw [if_pos positive, and_iff_right fun below => absurd below (not_lt.2 positive.le)]
    constructor <;> intro h <;> linarith

end Readings

end SlideMerge.Sheet
