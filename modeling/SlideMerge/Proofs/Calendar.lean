import Mathlib.Order.Monotone.Basic
import Mathlib.Tactic.SplitIfs
import SlideMerge.Calendar.Time

/-!
# Days and points in time, by their numbers

The days of the calendar are numbered one after the other, year by year and in a year month by
month. So a day is found again from its number: the year is the one between whose ends the number
lies (`yearOfOrdinal_eq`), and in the year the lengths of the months are taken off one by one
(`monthAndDay_eq`). A day and its number determine each other (`ofOrdinal?_eq_some_iff`), and so do
a point in time and its microseconds (`ofInstant?_eq_some_iff`).
-/

namespace SlideMerge.Calendar

open Numeric

/-! ## Years -/

theorem isLeapYear_iff {year : Nat} :
    isLeapYear year ↔ 4 ∣ year ∧ (¬ 100 ∣ year ∨ 400 ∣ year) := by
  simp [isLeapYear, Nat.dvd_iff_mod_eq_zero]

theorem total_monthLengths (year : Nat) :
    total (monthLengths year) = if isLeapYear year then 366 else 365 := by
  unfold monthLengths
  split <;> rfl

theorem daysBeforeYear_succ {year : Nat} (h : 1 ≤ year) :
    daysBeforeYear (year + 1) = daysBeforeYear year + total (monthLengths year) := by
  obtain ⟨before, rfl⟩ := Nat.exists_eq_add_of_le' h
  have centuries : before / 100 ≤ before / 4 := Nat.div_le_div_left (by decide) (by decide)
  rw [total_monthLengths]
  simp only [daysBeforeYear, Nat.add_sub_cancel, Nat.succ_div, isLeapYear_iff]
  split_ifs <;> omega

theorem daysBeforeYear_mono : Monotone daysBeforeYear := by
  refine monotone_nat_of_le_succ fun year => ?_
  rcases Nat.eq_zero_or_pos year with rfl | positive
  · decide
  · rw [daysBeforeYear_succ positive]
    exact Nat.le_add_right _ _

theorem daysBeforeYear_bounds (year : Nat) :
    146097 * (year - 1) ≤ 400 * daysBeforeYear year + 699 ∧
      400 * daysBeforeYear year ≤ 146097 * (year - 1) + 396 := by
  unfold daysBeforeYear
  omega

theorem daysInMonth_le (year month : Nat) : daysInMonth year month ≤ 31 := by
  have lengths : ∀ length ∈ monthLengths year, length ≤ 31 := by
    unfold monthLengths
    split <;> decide
  rw [daysInMonth, List.getD_eq_getElem?_getD]
  cases h : (monthLengths year)[month - 1]? with
  | none => exact Nat.zero_le 31
  | some length => exact lengths length (List.mem_of_getElem? h)

namespace Date

/-- **The year of a day is the one between whose ends its number lies.** -/
theorem yearOfOrdinal_eq {year n : Nat} (h : 1 ≤ year) (low : daysBeforeYear year < n)
    (high : n ≤ daysBeforeYear (year + 1)) : yearOfOrdinal n = year := by
  have lower := (daysBeforeYear_bounds year).1
  have upper := (daysBeforeYear_bounds (year + 1)).2
  rw [Nat.add_sub_cancel] at upper
  have estimate : (n - 1) * 400 / 146097 + 1 = year ∨ (n - 1) * 400 / 146097 + 1 + 1 = year := by
    omega
  unfold yearOfOrdinal
  rcases estimate with exact | under
  · rw [exact]
    simp only [Nat.not_lt.2 high, Nat.not_le.2 low, if_false]
  · simp only [under, low, if_true]

theorem daysBeforeYear_yearOfOrdinal {n : Nat} (h : 1 ≤ n) :
    daysBeforeYear (yearOfOrdinal n) < n := by
  have upper := (daysBeforeYear_bounds ((n - 1) * 400 / 146097)).2
  unfold yearOfOrdinal
  dsimp only
  rw [Nat.add_sub_cancel]
  split_ifs with late early
  · exact late
  · omega
  · exact Nat.not_le.1 early

/-! ## Months -/

theorem monthAndDay_eq {day : Nat} (first k : Nat) (lengths : List Nat) (low : 1 ≤ day)
    (high : day ≤ lengths.getD k 0) :
    monthAndDay first (total (lengths.take k) + day) lengths = (first + k, day) := by
  induction lengths generalizing first k with
  | nil =>
    have none : day ≤ 0 := high
    omega
  | cons length rest ih =>
    cases k with
    | zero =>
      have within : day ≤ length := high
      rw [List.take_zero, total_nil, Nat.zero_add, monthAndDay, if_pos within, Nat.add_zero]
    | succ k =>
      have beyond : ¬ length + total (rest.take k) + day ≤ length := by omega
      have left : length + total (rest.take k) + day - length = total (rest.take k) + day := by
        omega
      rw [List.take_succ_cons, total_cons, monthAndDay, if_neg beyond, left, ih (first + 1) k high,
        Nat.add_right_comm, Nat.add_assoc]

theorem total_monthAndDay (first n : Nat) (lengths : List Nat) :
    first ≤ (monthAndDay first n lengths).1 ∧
      total (lengths.take ((monthAndDay first n lengths).1 - first)) +
        (monthAndDay first n lengths).2 = n := by
  induction lengths generalizing first n with
  | nil =>
    rw [monthAndDay, List.take_nil, total_nil]
    exact ⟨Nat.le_refl first, Nat.zero_add n⟩
  | cons length rest ih =>
    by_cases within : n ≤ length
    · rw [monthAndDay, if_pos within, Nat.sub_self, List.take_zero]
      exact ⟨Nat.le_refl first, Nat.zero_add n⟩
    · obtain ⟨later, sum⟩ := ih (first + 1) (n - length)
      rw [monthAndDay, if_neg within]
      generalize monthAndDay (first + 1) (n - length) rest = found at later sum ⊢
      have months : found.1 - first = (found.1 - (first + 1)) + 1 := by omega
      rw [months, List.take_succ_cons, total_cons]
      omega

/-! ## Days -/

theorem total_take_add_getD_le (k : Nat) (lengths : List Nat) :
    total (lengths.take k) + lengths.getD k 0 ≤ total lengths := by
  induction lengths generalizing k with
  | nil => simp
  | cons length rest ih =>
    cases k with
    | zero => simp
    | succ k =>
      rw [List.take_succ_cons, total_cons, total_cons, List.getD_cons_succ, Nat.add_assoc]
      exact Nat.add_le_add_left (ih k) length

theorem daysBeforeYear_lt_ordinal (d : Date) : daysBeforeYear d.year < d.ordinal := by
  have first : 1 ≤ d.day := d.isDate.2.2.2.2.1
  unfold ordinal
  omega

theorem one_le_ordinal (d : Date) : 1 ≤ d.ordinal :=
  Nat.succ_le_of_lt (Nat.zero_lt_of_lt d.daysBeforeYear_lt_ordinal)

theorem ordinal_le_daysBeforeYear (d : Date) : d.ordinal ≤ daysBeforeYear (d.year + 1) := by
  obtain ⟨hy, -, -, -, -, hl⟩ := d.isDate
  have length := total_take_add_getD_le (d.month - 1) (monthLengths d.year)
  rw [daysInMonth] at hl
  rw [daysBeforeYear_succ hy, ordinal, daysBeforeMonth]
  omega

/-- The number of the day that has been found is the one that has been looked for. -/
theorem ordinal_of_ofOrdinal? {n : Int} {d : Date} (h : ofOrdinal? n = some d) : n = d.ordinal := by
  rw [ofOrdinal?] at h
  split at h
  · cases h
  · next hn =>
    have begun := daysBeforeYear_yearOfOrdinal (n := n.toNat) (by omega)
    obtain ⟨later, sum⟩ := total_monthAndDay 1 (n.toNat - daysBeforeYear (yearOfOrdinal n.toNat))
      (monthLengths (yearOfOrdinal n.toNat))
    dsimp only at h
    rw [ofFields?] at h
    split at h
    · obtain rfl := Option.some.inj h
      simp only [ordinal, daysBeforeMonth]
      omega
    · cases h

/-- A day is found by its number: first its year, then its month. -/
theorem ofOrdinal?_ordinal (d : Date) : ofOrdinal? d.ordinal = some d := by
  have begun := d.daysBeforeYear_lt_ordinal
  have ended := d.ordinal_le_daysBeforeYear
  obtain ⟨year, month, day, isDate⟩ := d
  obtain ⟨hy, -, hm, -, hd, hl⟩ := id isDate
  have years := yearOfOrdinal_eq hy begun ended
  have months : monthAndDay 1 (daysBeforeMonth year month + day) (monthLengths year) =
      (month, day) := by
    have found := monthAndDay_eq 1 (month - 1) (monthLengths year) hd hl
    rwa [Nat.add_sub_cancel' hm] at found
  have rest : daysBeforeYear year + daysBeforeMonth year month + day - daysBeforeYear year =
      daysBeforeMonth year month + day := by omega
  have positive : ¬ ((daysBeforeYear year + daysBeforeMonth year month + day : Nat) : Int) < 1 := by
    omega
  simp only [ordinal] at years
  simp only [ofOrdinal?, ordinal, if_neg positive, Int.toNat_natCast, years, rest, months,
    ofFields?, dif_pos isDate]

/-- **A day and its number determine each other.** -/
theorem ofOrdinal?_eq_some_iff {n : Int} {d : Date} : ofOrdinal? n = some d ↔ n = d.ordinal := by
  constructor
  · exact ordinal_of_ofOrdinal?
  · rintro rfl
    exact d.ofOrdinal?_ordinal

theorem ordinal_injective {d d' : Date} (h : d.ordinal = d'.ordinal) : d = d' := by
  have found := d.ofOrdinal?_ordinal
  rw [h, d'.ofOrdinal?_ordinal] at found
  exact (Option.some.inj found).symm

end Date

/-! ## Points in time -/

namespace DateTime

theorem microsPerDay_pos : 0 < microsPerDay := by
  decide

theorem instant_ofDate (d : Date) : (ofDate d).instant = (d.ordinal - 1) * microsPerDay :=
  Nat.add_zero _

theorem instant_of_ofInstant? {micros : Int} {t : DateTime} (h : ofInstant? micros = some t) :
    micros = t.instant := by
  obtain ⟨date, hdate, htime⟩ := Option.bind_eq_some_iff.1 h
  have ordinal := Date.ordinal_of_ofOrdinal? hdate
  have first := date.one_le_ordinal
  have positive : (0 : Int) < microsPerDay := Int.natCast_pos.2 microsPerDay_pos
  dsimp only at htime
  split at htime
  · obtain rfl := Option.some.inj htime
    have nonneg := Int.emod_nonneg micros (Int.ne_of_gt positive)
    have parts := Int.mul_ediv_add_emod micros microsPerDay
    have days : micros / microsPerDay = ((date.ordinal - 1 : Nat) : Int) := by omega
    rw [instant, Int.natCast_add, Int.natCast_mul, ← days, Int.toNat_of_nonneg nonneg,
      Int.mul_comm]
    exact parts.symm
  · cases htime

theorem ofInstant?_instant (t : DateTime) : ofInstant? t.instant = some t := by
  have first := t.date.one_le_ordinal
  have time := t.time.isLt
  have days : ((t.instant : Nat) : Int) / microsPerDay + 1 = t.date.ordinal := by
    rw [instant, ← Int.natCast_ediv, Nat.mul_comm, Nat.mul_add_div microsPerDay_pos,
      Nat.div_eq_of_lt time]
    omega
  have rest : ((t.instant : Int) % microsPerDay).toNat = t.time.micros := by
    rw [instant, ← Int.natCast_emod, Int.toNat_natCast, Nat.mul_comm, Nat.mul_add_mod,
      Nat.mod_eq_of_lt time]
  simp only [ofInstant?, days, t.date.ofOrdinal?_ordinal, rest, dif_pos time]
  rfl

/-- **A point in time and its microseconds determine each other.** -/
theorem ofInstant?_eq_some_iff {micros : Int} {t : DateTime} :
    ofInstant? micros = some t ↔ micros = t.instant := by
  constructor
  · exact instant_of_ofInstant?
  · rintro rfl
    exact t.ofInstant?_instant

theorem addMicros?_ofDate (d : Date) (micros : Int) :
    (ofDate d).addMicros? micros = ofInstant? ((d.ordinal - 1) * microsPerDay + micros) := by
  have first := d.one_le_ordinal
  rw [addMicros?, instant_ofDate, Int.natCast_mul, Int.natCast_sub first, Int.natCast_one]

theorem addMicros?_zero (t : DateTime) : t.addMicros? 0 = some t := by
  rw [addMicros?, Int.add_zero, t.ofInstant?_instant]

end DateTime

end SlideMerge.Calendar
