import SlideMerge.Proofs.DateCode
import SlideMerge.Proofs.DateText
import SlideMerge.Proofs.Resolving
import SlideMerge.Proofs.Serial
import SlideMerge.Sheet.Display

/-!
# The forms in which a cell holds a day

A cell may hold a day as a date, as a point in time, as the serial of the day, or as a text that a
code with slashes has shown. Month and year of the cell are those of the day in each case: a serial
is decoded to its day (`serialToDate?_serialOf`), and a text is read back
(`readDateText_formatDateTime`).

Main result: `monthYearText_of_day`.
-/

namespace SlideMerge.Placeholder

open Text Numeric Calendar Format Sheet

theorem isDigit_of_mem_shortOrPadded {letters n : Nat} {c : Char}
    (h : c ∈ shortOrPadded letters n) :
    isDigit c := by
  rw [shortOrPadded] at h
  split at h
  · exact isDigit_of_mem_decimal h
  · exact isDigit_of_mem_paddedDecimal h

theorem digitsValue_shortOrPadded (letters n : Nat) :
    digitsValue (shortOrPadded letters n) = n := by
  rw [shortOrPadded]
  split
  · exact digitsValue_decimal n
  · exact digitsValue_paddedDecimal

theorem length_shortOrPadded (letters : Nat) {n : Nat} (h : n < 100) :
    (shortOrPadded letters n).length = 1 ∨ (shortOrPadded letters n).length = 2 := by
  have nonempty : (decimal n).length ≠ 0 := fun h =>
    decimal_ne_nil n (List.eq_nil_of_length_eq_zero h)
  have short : (decimal n).length ≤ 2 :=
    (Nat.length_toDigits_le_iff (by decide) (by decide)).2 h
  rw [shortOrPadded]
  split
  · omega
  · exact .inr (length_paddedDecimal (by decide) h)

theorem readYear_yearDigits (code : SlashCode) {year : Nat} (low : 1 ≤ year) (high : year ≤ 9999)
    (hy : code.longYear = false → 2000 ≤ year ∧ year ≤ 2099) {rest : List Char}
    (hs : SpaceFirst rest) : readYear (code.yearDigits year ++ rest) = some year := by
  have all : ∀ c ∈ code.yearDigits year, isDigit c := by
    intro c hc
    rw [SlashCode.yearDigits] at hc
    split at hc <;> exact isDigit_of_mem_paddedDecimal hc
  have ends : ∀ c ∈ rest.head?, isDigit c = false := by
    intro c hc
    rw [hs c hc]
    rfl
  cases long : code.longYear with
  | true =>
    have digits : code.yearDigits year = paddedDecimal 4 year := by
      rw [SlashCode.yearDigits, if_pos long]
    have length : (code.yearDigits year).length = 4 := by
      rw [digits]
      exact length_paddedDecimal (by decide) (by omega)
    rw [readYear_run all ends (.inr length), yearOfDigits, if_neg (by omega), digits,
      digitsValue_paddedDecimal]
  | false =>
    have digits : code.yearDigits year = paddedDecimal 2 (year % 100) := by
      rw [SlashCode.yearDigits, if_neg (Bool.eq_false_iff.1 long)]
    have length : (code.yearDigits year).length = 2 := by
      rw [digits]
      exact length_paddedDecimal (by decide) (Nat.mod_lt _ (by decide))
    have century : 2000 + year % 100 = year := by
      have := hy long
      omega
    rw [readYear_run all ends (.inl length), yearOfDigits, if_pos length, digits,
      digitsValue_paddedDecimal, century]

/-- **What a code with slashes shows is read back.** -/
theorem readDateText_formatDateTime (code : SlashCode) (t : DateTime)
    (hy : code.longYear = false → 2000 ≤ t.date.year ∧ t.date.year ≤ 2099) :
    readDateText (formatDateTime t code.text) = some (t.date.month, t.date.year) := by
  obtain ⟨rest, space, shown⟩ := code.exists_formatDateTime t
  obtain ⟨y, y', m, m', d, d'⟩ := t.date.isDate
  have long := daysInMonth_le t.date.year t.date.month
  have month : ∀ c ∈ shortOrPadded code.monthField.length t.date.month, isDigit c :=
    fun _ => isDigit_of_mem_shortOrPadded
  have day : ∀ c ∈ shortOrPadded code.dayField.length t.date.day, isDigit c :=
    fun _ => isDigit_of_mem_shortOrPadded
  have monthLength := length_shortOrPadded code.monthField.length (n := t.date.month) (by omega)
  have dayLength := length_shortOrPadded code.dayField.length (n := t.date.day) (by omega)
  have nonempty : shortOrPadded code.monthField.length t.date.month ≠ [] := by
    rintro h
    simp [h] at monthLength
  have inRange : 1 ≤ t.date.month ∧ t.date.month ≤ 12 ∧ 1 ≤ t.date.day ∧ t.date.day ≤ 31 := by
    omega
  rw [shown, readDateText, trimStart_run month nonempty, readBeforeSlash_run month monthLength]
  simp only [Option.bind_eq_bind, Option.bind_some, readBeforeSlash_run day dayLength,
    readYear_yearDigits code y y' hy space, digitsValue_shortOrPadded, inRange, and_self, if_true]

/-! ## Months and years of days -/

theorem render_slashCode (code : SlashCode) (t : DateTime) :
    render (.dateTime t) (some (String.ofList code.text)) =
      .ok (String.ofList (formatDateTime t code.text)) := by
  have slash : '/' ∈ code.text := by simp [SlashCode.text, SlashCode.front]
  have other {name : String} (h : '/' ∉ name.toList) : String.ofList code.text ≠ name := by
    rintro rfl
    rw [String.toList_ofList] at h
    exact h slash
  have shown : displayCode (some (String.ofList code.text)) = String.ofList code.text := by
    rw [displayCode, Option.getD_some, if_neg (other (by decide)), if_neg (other (by decide))]
  rw [render, shown, String.toList_ofList, renderWithCode, renderDateTime,
    if_pos code.isDateCode_text]
  rfl

theorem monthYearText_of_monthYear {system : DateSystem} {cell : Cell} {month year : Nat}
    (h : monthYearOf system (some cell) = .ok (some (month, year))) {format : MonthYearFormat}
    {text : List Char} (ht : formatMonthYear month year format = .ok text) :
    monthYearText system (some cell) format = .ok (String.ofList text) := by
  rw [monthYearText, monthYearTextBy, h]
  exact map_eq_ok.2 ⟨text, ht, rfl⟩

theorem monthYearOf_of_date {system : DateSystem} {cell : Cell} {value : Value} {d : Date}
    (held : cell.value = some value) (hd : dateOfValue system value = .ok (some d)) :
    monthYearOf system (some cell) = .ok (some (d.month, d.year)) := by
  rw [monthYearOf, held]
  exact bind_eq_ok.2 ⟨_, hd, rfl⟩

theorem dateOfValue_serialOf {system : DateSystem} {d : Date} (first : system.year ≤ d.year) :
    dateOfValue system (.integer (system.serialOf d)) = .ok (some d) := by
  refine map_eq_ok.2 ⟨some (.ofDate d), ?_, rfl⟩
  rw [decodeSerial, serialToDate?_serialOf first]

/-- **Month and year of a cell are those of the day that it holds**, in whichever form: as a date or
a point in time, whatever is shown for it; as a serial, from the first year of the date system on;
or as the text that a code with slashes shows, with two digits for the years from 2000 to 2099. -/
theorem monthYearText_of_day (d : Date) (format : MonthYearFormat) :
    ∃ text, formatMonthYear d.month d.year format = .ok text ∧
      (∀ system (cell : Cell) time,
        cell.value = some (.date d) ∨ cell.value = some (.dateTime ⟨d, time⟩) →
        monthYearText system (some cell) format = .ok (String.ofList text)) ∧
      (∀ (system : DateSystem) (cell : Cell), system.year ≤ d.year →
        cell.value = some (.integer (system.serialOf d)) →
        monthYearText system (some cell) format = .ok (String.ofList text)) ∧
      (∀ (code : SlashCode) time, (code.longYear = false → 2000 ≤ d.year ∧ d.year ≤ 2099) →
        ∃ shown, render (.dateTime ⟨d, time⟩) (some (String.ofList code.text)) = .ok shown ∧
          ∀ system (cell : Cell), cell.value = some (.text shown) →
            cell.shown = none ∨ cell.shown = some shown →
            monthYearText system (some cell) format = .ok (String.ofList text)) := by
  obtain ⟨-, -, low, high, -⟩ := d.isDate
  obtain ⟨text, ht, -⟩ := exists_formatMonthYear low high d.year format
  refine ⟨text, ht, ?_, ?_, ?_⟩
  · intro system cell time held
    refine monthYearText_of_monthYear ?_ ht
    rcases held with held | held
    · exact monthYearOf_of_date held rfl
    · exact monthYearOf_of_date held rfl
  · intro system cell first held
    exact monthYearText_of_monthYear (monthYearOf_of_date held (dateOfValue_serialOf first)) ht
  · intro code time years
    refine ⟨_, render_slashCode code _, fun system cell held shown => ?_⟩
    refine monthYearText_of_monthYear ?_ ht
    have display : cell.displayText = .ok (formatDateTime ⟨d, time⟩ code.text) := by
      rcases shown with shown | shown <;>
        simp [Cell.displayText, shown, held, Value.write, Value.isWritable, Value.plainText]
    have read := readDateText_formatDateTime code ⟨d, time⟩ years
    rw [monthYearOf, held]
    exact bind_eq_ok.2 ⟨none, rfl, map_eq_ok.2 ⟨_, display, read⟩⟩

end SlideMerge.Placeholder
