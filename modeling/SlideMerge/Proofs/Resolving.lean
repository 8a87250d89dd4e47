import SlideMerge.Placeholder.Resolver
import SlideMerge.Proofs.Reference
import SlideMerge.Proofs.Traversal

/-!
# What specifications resolve to

A value can be looked up if the references are legible (`Legible`): they are well-formed, and the
cells that they lead to can be written, which only integers of too many digits cannot
(`lookup_eq_ok_resolve`). The tables of the months are never left, for the month of a cell lies
between 1 and 12 wherever it comes from (`monthYearOf_bounds`). Resolving turns a failure into
`N/A`, so that it always gives a text.

The text can be shown as it is (`Presentable`): that of a cell is trimmed, that of a join begins
with a text that is kept and ends with one, and a month and a year begin with a letter or a digit
and end with a digit. Constant texts are passed on as they are.

Main result: `resolve_outcome`.
-/

namespace SlideMerge.Sheet

open Text Numeric

/-! ## Cells that can be written -/

/-- The content of a cell can be written, if it has one. -/
def Cell.IsWritable (c : Cell) : Prop :=
  ∀ v ∈ c.value, v.isWritable

theorem Value.write_eq_ok {v : Value} {text : List Char} :
    v.write = .ok text ↔ v.isWritable ∧ text = v.plainText := by
  rw [write]
  split_ifs with writable
  · rw [Except.ok.injEq, eq_comm, and_iff_right writable]
  · exact iff_of_false nofun fun h => writable h.1

theorem Cell.exists_displayText {c : Cell} (h : c.IsWritable) :
    ∃ blank text, c.isBlank = .ok blank ∧ c.displayText = .ok text := by
  obtain ⟨name, row, column, value, shown, format⟩ := c
  cases value with
  | none => cases shown <;> exact ⟨_, _, rfl, rfl⟩
  | some v =>
    have written : v.write = .ok v.plainText := Value.write_eq_ok.2 ⟨h v rfl, rfl⟩
    cases shown with
    | none => exact ⟨_, _, map_eq_ok.2 ⟨_, written, rfl⟩, written⟩
    | some text => exact ⟨_, _, map_eq_ok.2 ⟨_, written, rfl⟩, rfl⟩

theorem Cell.isBlank_eq_ok {c : Cell} {blank : Bool} (h : c.isBlank = .ok blank) :
    c.IsWritable := by
  intro v hv
  rw [isBlank, Option.mem_def.1 hv] at h
  obtain ⟨text, written, -⟩ := map_eq_ok.1 h
  exact (Value.write_eq_ok.1 written).1

end SlideMerge.Sheet

namespace SlideMerge.Sheet.Reference

open Text Numeric

/-- A text that is no spelling of a reference, or one with too many digits for a row. -/
def Malformed (text : String) : Prop :=
  ∀ s : Spelling, text.toList = s.text → maxIntegerDigits < s.digits.length

theorem malformed_iff {text : String} : Malformed text ↔ ∃ fault, read text = .error fault := by
  constructor
  · intro malformed
    refine (exists_ok_or_error (read text)).resolve_left ?_
    rintro ⟨r, hr⟩
    obtain ⟨s, hs, -, short⟩ := exists_spelling_of_read hr
    exact Nat.not_le.2 (malformed s hs) short
  · rintro ⟨fault, hf⟩ s hs
    refine Nat.not_le.1 fun short => ?_
    rw [read_of_spelling hs short] at hf
    cases hf

end SlideMerge.Sheet.Reference

namespace SlideMerge.Placeholder

open Text Numeric Calendar Sheet

/-! ## Month and year -/

theorem presentable_paddedDecimal (width n : Nat) : Presentable (paddedDecimal width n) := by
  refine presentable_of_no_blank ?_ fun c hc => isBlank_of_isDigit (isDigit_of_mem_paddedDecimal hc)
  exact List.append_ne_nil_of_right_ne_nil _ (decimal_ne_nil n)

theorem paddedDecimalInt_natCast (width n : Nat) :
    paddedDecimalInt width n = paddedDecimal width n := by
  rw [paddedDecimalInt, if_neg (Int.not_lt.2 (Int.natCast_nonneg n)), Int.natAbs_natCast]

theorem monthNameOf_eq_ok {month : Nat} (low : 1 ≤ month) (high : month ≤ 12) :
    monthNameOf month = .ok (monthName month) := by
  have index : (((month : Int) - 1) % 12).toNat + 1 = month := by omega
  rw [monthNameOf, if_pos (by omega), index]

theorem presentable_monthName {month : Nat} (low : 1 ≤ month) (high : month ≤ 12) :
    Presentable (monthName month) ∧ Presentable (shortName (monthName month)) := by
  have names : ∀ month ≤ 12, 1 ≤ month →
      (monthName month ≠ [] ∧ (monthName month).any isBlank = false) ∧
        shortName (monthName month) ≠ [] := by decide +kernel
  obtain ⟨⟨nonempty, noBlank⟩, short⟩ := names month high low
  have letters : ∀ c ∈ monthName month, isBlank c = false :=
    fun c hc => Bool.eq_false_iff.2 (List.any_eq_false.1 noBlank c hc)
  exact ⟨presentable_of_no_blank nonempty letters,
    presentable_of_no_blank short fun c hc => letters c (List.mem_of_mem_take hc)⟩

/-- **A month of the calendar can be written in each form.** -/
theorem exists_formatMonthYear {month : Nat} (low : 1 ≤ month) (high : month ≤ 12) (year : Nat)
    (format : MonthYearFormat) :
    ∃ text, formatMonthYear month year format = .ok text ∧ Presentable text := by
  obtain ⟨long, short⟩ := presentable_monthName low high
  have name := monthNameOf_eq_ok low high
  have years := presentable_paddedDecimal 4 year
  simp only [formatMonthYear, paddedDecimalInt_natCast, name]
  cases format with
  | short => exact ⟨_, rfl, short.append years [' ']⟩
  | long => exact ⟨_, rfl, long.append years [' ']⟩
  | numeric => exact ⟨_, rfl, (presentable_paddedDecimal 2 month).append years ['/']⟩

theorem readYear_le {cs : List Char} {year : Nat} (h : readYear cs = some year) : year ≤ 9999 := by
  have bound := digitsValue_lt (cs.takeWhile isDigit)
  rw [readYear] at h
  split at h
  · next two =>
    obtain rfl := Option.some.inj h
    rw [two] at bound
    omega
  · next four =>
    obtain rfl := Option.some.inj h
    rw [four] at bound
    omega
  · cases h

theorem readDateText_bounds {text : List Char} {month year : Nat}
    (h : readDateText text = some (month, year)) : 1 ≤ month ∧ month ≤ 12 ∧ year ≤ 9999 := by
  obtain ⟨⟨month', rest⟩, -, h⟩ := Option.bind_eq_some_iff.1 h
  obtain ⟨⟨day, rest'⟩, -, h⟩ := Option.bind_eq_some_iff.1 h
  obtain ⟨year', hy, h⟩ := Option.bind_eq_some_iff.1 h
  split_ifs at h with inRange
  obtain ⟨rfl, rfl⟩ := Prod.mk.inj (Option.some.inj h)
  exact ⟨inRange.1, inRange.2.1, readYear_le hy⟩

theorem exists_dateOfValue {value : Value} (h : value.isWritable) (system : DateSystem) :
    ∃ date, dateOfValue system value = .ok date := by
  have decoded (serial : Format.Number) (hs : serial.toValue.isWritable) :
      ∃ date, decodeSerial system serial = .ok date := by
    rw [decodeSerial]
    cases serialToDate? system serial with
    | some t => exact ⟨_, rfl⟩
    | none => exact ⟨none, if_pos (by rw [hs, Bool.or_true])⟩
  cases value with
  | integer n =>
    obtain ⟨t, ht⟩ := decoded (.integer n) h
    exact ⟨_, map_eq_ok.2 ⟨t, ht, rfl⟩⟩
  | real x =>
    obtain ⟨t, ht⟩ := decoded (.real x) rfl
    exact ⟨_, map_eq_ok.2 ⟨t, ht, rfl⟩⟩
  | text | logical | dateTime | date | time | duration | other => exact ⟨_, rfl⟩

/-- **The month of a cell is one of the twelve, and its year has at most four digits.** -/
theorem monthYearOf_bounds {system : DateSystem} {cell : Option Cell} {month year : Nat}
    (h : monthYearOf system cell = .ok (some (month, year))) :
    1 ≤ month ∧ month ≤ 12 ∧ year ≤ 9999 := by
  cases cell with
  | none => cases h
  | some cell =>
    rw [monthYearOf] at h
    cases hv : cell.value with
    | none =>
      rw [hv] at h
      cases h
    | some value =>
      rw [hv] at h
      obtain ⟨date, -, h⟩ := bind_eq_ok.1 h
      cases date with
      | some d =>
        obtain ⟨rfl, rfl⟩ := Prod.mk.inj (Option.some.inj (Except.ok.inj h))
        obtain ⟨-, yearLe, monthGe, monthLe, -⟩ := d.isDate
        exact ⟨monthGe, monthLe, yearLe⟩
      | none =>
        obtain ⟨text, -, read⟩ := map_eq_ok.1 h
        exact readDateText_bounds read

theorem exists_monthYearOf {cell : Option Cell} (h : ∀ c ∈ cell, c.IsWritable)
    (system : DateSystem) : ∃ found, monthYearOf system cell = .ok found := by
  cases cell with
  | none => exact ⟨none, rfl⟩
  | some cell =>
    rw [monthYearOf]
    cases hv : cell.value with
    | none => exact ⟨none, rfl⟩
    | some value =>
      obtain ⟨date, hd⟩ := exists_dateOfValue (h cell rfl value hv) system
      obtain ⟨-, text, -, ht⟩ := Cell.exists_displayText (h cell rfl)
      cases date with
      | some d => exact ⟨_, bind_eq_ok.2 ⟨_, hd, rfl⟩⟩
      | none => exact ⟨_, bind_eq_ok.2 ⟨_, hd, map_eq_ok.2 ⟨text, ht, rfl⟩⟩⟩

theorem monthYearText_eq_ok {system : DateSystem} {cell : Option Cell} {format : MonthYearFormat}
    {text : String} (h : monthYearText system cell format = .ok text) :
    text = notAvailable ∨ ∃ month year : Nat, 1 ≤ month ∧ month ≤ 12 ∧ year ≤ 9999 ∧
      formatMonthYear month year format = .ok text.toList := by
  obtain ⟨found, hf, h⟩ := bind_eq_ok.1 h
  cases found with
  | none => exact Or.inl (Except.ok.inj h).symm
  | some parts =>
    obtain ⟨month, year⟩ := parts
    obtain ⟨low, high, yearLe⟩ := monthYearOf_bounds (mapError_eq_ok.1 hf)
    obtain ⟨written, hw, rfl⟩ := map_eq_ok.1 h
    rw [String.toList_ofList]
    exact Or.inr ⟨month, year, low, high, yearLe, hw⟩

/-- **Month and year of a cell that can be written never fail.** -/
theorem exists_monthYearText {cell : Option Cell} (h : ∀ c ∈ cell, c.IsWritable)
    (system : DateSystem) (format : MonthYearFormat) :
    ∃ text, monthYearText system cell format = .ok text := by
  obtain ⟨found, hf⟩ := exists_monthYearOf h system
  cases found with
  | none => exact ⟨_, bind_eq_ok.2 ⟨_, mapError_eq_ok.2 hf, rfl⟩⟩
  | some parts =>
    obtain ⟨month, year⟩ := parts
    obtain ⟨low, high, -⟩ := monthYearOf_bounds hf
    obtain ⟨text, ht, -⟩ := exists_formatMonthYear low high year format
    exact ⟨_, bind_eq_ok.2 ⟨_, mapError_eq_ok.2 hf, map_eq_ok.2 ⟨text, ht, rfl⟩⟩⟩

/-! ## Texts -/

theorem presentable_notAvailable : Presentable notAvailable.toList :=
  presentable_of_no_blank (by decide) fun c hc =>
    Bool.eq_false_iff.2 (List.any_eq_false.1 (by decide : notAvailable.toList.any isBlank =
      false) c hc)

theorem textOfCell_some {c : Cell} {blank : Bool} {text : List Char} (hb : c.isBlank = .ok blank)
    (ht : c.displayText = .ok text) :
    textOfCell (some c) =
      .ok (if blank || (trim text).isEmpty then notAvailable.toList else trim text) := by
  rw [textOfCell, hb, ht]
  cases blank with
  | true => rfl
  | false => rfl

theorem exists_textOfCell_iff {cell : Option Cell} :
    (∃ text, textOfCell cell = .ok text) ↔ ∀ c ∈ cell, c.IsWritable := by
  cases cell with
  | none => exact iff_of_true ⟨_, rfl⟩ fun c hc => absurd hc (Option.not_mem_none c)
  | some c =>
    constructor
    · rintro ⟨text, h⟩ c' hc
      obtain rfl := Option.some.inj hc
      obtain ⟨blank, hb, -⟩ := bind_eq_ok.1 h
      exact Cell.isBlank_eq_ok hb
    · intro h
      obtain ⟨blank, text, hb, ht⟩ := Cell.exists_displayText (h c rfl)
      exact ⟨_, textOfCell_some hb ht⟩

theorem presentable_textOfCell {cell : Option Cell} {text : List Char}
    (h : textOfCell cell = .ok text) : Presentable text := by
  cases cell with
  | none =>
    obtain rfl : notAvailable.toList = text := Except.ok.inj h
    exact presentable_notAvailable
  | some c =>
    obtain ⟨blank, shown, hb, ht⟩ := Cell.exists_displayText (exists_textOfCell_iff.1 ⟨_, h⟩ c rfl)
    rw [textOfCell_some hb ht] at h
    rw [← Except.ok.inj h]
    split_ifs with missing
    · exact presentable_notAvailable
    · refine presentable_trim fun empty => missing ?_
      rw [empty, List.isEmpty_nil, Bool.or_true]

theorem presentable_of_mem_survivors {texts : List (List Char)} {text : List Char}
    (h : text ∈ survivors texts) : Presentable text := by
  obtain ⟨member, kept⟩ := List.mem_filter.1 h
  obtain ⟨text, -, rfl⟩ := List.mem_map.1 member
  refine presentable_trim fun empty => ?_
  rw [empty] at kept
  cases kept

theorem presentable_joinTexts (separator : List Char) {texts : List (List Char)}
    (h : ∀ text ∈ texts, Presentable text) : Presentable (joinTexts separator texts) := by
  cases texts with
  | nil => exact presentable_notAvailable
  | cons text rest =>
    rw [joinTexts]
    · induction rest generalizing text with
      | nil =>
        rw [List.intercalate_singleton]
        exact h text List.mem_cons_self
      | cons next rest ih =>
        have following := ih next fun t ht => h t (List.mem_cons_of_mem _ ht)
        rw [List.intercalate_cons_cons, List.append_assoc]
        exact (h text List.mem_cons_self).append following separator
    · exact List.cons_ne_nil _ _

/-! ## Failures -/

/-- A well-formed reference that does not lead to a cell which cannot be written. -/
structure Legible (sheet : Snapshot) (ref : String) : Prop where
  wellFormed : ¬ Reference.Malformed ref
  writable : ∀ c, sheet.get ref = .ok (some c) → c.IsWritable

theorem get_eq_error {sheet : Snapshot} {ref : String} {fault : ReferenceFault} :
    sheet.get ref = .error fault ↔ Reference.read ref = .error fault := by
  rw [Snapshot.get, map_eq_error, Reference.normalize, map_eq_error]

theorem exists_get_iff {sheet : Snapshot} {ref : String} :
    (∃ cell, sheet.get ref = .ok cell) ↔ ¬ Reference.Malformed ref := by
  rw [Reference.malformed_iff]
  cases h : sheet.get ref with
  | ok cell =>
    refine iff_of_true ⟨cell, rfl⟩ ?_
    rintro ⟨fault, failed⟩
    rw [get_eq_error.2 failed] at h
    cases h
  | error fault =>
    exact iff_of_false (fun ⟨_, ok⟩ => error_ne_ok ok) fun none => none ⟨fault, get_eq_error.1 h⟩

theorem legible_iff {sheet : Snapshot} {ref : String} :
    Legible sheet ref ↔ ∃ cell, sheet.get ref = .ok cell ∧ ∀ c ∈ cell, c.IsWritable := by
  constructor
  · rintro ⟨wellFormed, writable⟩
    obtain ⟨cell, found⟩ := exists_get_iff.2 wellFormed
    refine ⟨cell, found, fun c hc => writable c ?_⟩
    rw [found, Option.mem_def.1 hc]
  · rintro ⟨cell, found, writable⟩
    refine ⟨exists_get_iff.1 ⟨cell, found⟩, fun c hc => writable c ?_⟩
    exact Except.ok.inj (found.symm.trans hc)

theorem exists_cellText_iff {sheet : Snapshot} {ref : String} :
    (∃ text, cellText sheet ref = .ok text) ↔ Legible sheet ref := by
  simp only [cellText, bind_eq_ok, mapError_eq_ok, legible_iff, ← exists_textOfCell_iff]
  constructor
  · rintro ⟨text, cell, found, shown⟩
    exact ⟨cell, found, text, shown⟩
  · rintro ⟨cell, found, text, shown⟩
    exact ⟨text, cell, found, shown⟩

theorem exists_mapM_cellText_iff {sheet : Snapshot} {refs : List String} :
    (∃ texts, refs.mapM (cellText sheet) = .ok texts) ↔ ∀ ref ∈ refs, Legible sheet ref := by
  constructor
  · rintro ⟨texts, h⟩ ref member
    obtain ⟨text, -, found⟩ := exists_of_mem_left (mapM_eq_ok.1 h) ref member
    exact exists_cellText_iff.1 ⟨text, found⟩
  · intro legible
    refine (exists_ok_or_error (refs.mapM (cellText sheet))).resolve_right ?_
    rintro ⟨fault, failed⟩
    obtain ⟨ref, member, hf⟩ := exists_of_mapM_eq_error failed
    obtain ⟨text, found⟩ := exists_cellText_iff.2 (legible ref member)
    exact error_ne_ok (hf.symm.trans found)

/-- **A value with legible references can be looked up.** -/
theorem exists_lookup {sheet : Snapshot} {spec : Spec} (h : ∀ ref ∈ spec.refs, Legible sheet ref) :
    ∃ text, lookup sheet spec = .ok text := by
  cases spec with
  | const value => exact ⟨value, rfl⟩
  | cell ref =>
    obtain ⟨text, found⟩ := exists_cellText_iff.2 (h ref List.mem_cons_self)
    exact ⟨_, map_eq_ok.2 ⟨text, found, rfl⟩⟩
  | join refs separator =>
    obtain ⟨texts, found⟩ := exists_mapM_cellText_iff.2 h
    exact ⟨_, map_eq_ok.2 ⟨_, bind_eq_ok.2 ⟨texts, found, rfl⟩, rfl⟩⟩
  | monthYear ref format =>
    obtain ⟨cell, found, writable⟩ := legible_iff.1 (h ref List.mem_cons_self)
    obtain ⟨text, ht⟩ := exists_monthYearText writable sheet.system format
    exact ⟨text, bind_eq_ok.2 ⟨cell, mapError_eq_ok.2 found, mapError_eq_ok.2 ht⟩⟩

/-- **A value with a malformed reference cannot be looked up.** -/
theorem lookup_ne_ok_of_malformed {sheet : Snapshot} {spec : Spec} {ref : String}
    (member : ref ∈ spec.refs) (malformed : Reference.Malformed ref) (text : String) :
    lookup sheet spec ≠ .ok text := by
  intro h
  cases spec with
  | const value => cases member
  | cell ref' =>
    obtain rfl := List.mem_singleton.1 member
    obtain ⟨shown, found, -⟩ := map_eq_ok.1 h
    exact (exists_cellText_iff.1 ⟨shown, found⟩).wellFormed malformed
  | join refs separator =>
    obtain ⟨shown, joined, -⟩ := map_eq_ok.1 h
    obtain ⟨texts, found, -⟩ := bind_eq_ok.1 joined
    exact (exists_mapM_cellText_iff.1 ⟨texts, found⟩ ref member).wellFormed malformed
  | monthYear ref' format =>
    obtain rfl := List.mem_singleton.1 member
    obtain ⟨cell, found, -⟩ := bind_eq_ok.1 h
    exact exists_get_iff.1 ⟨cell, mapError_eq_ok.1 found⟩ malformed

/-! ## Resolving -/

theorem resolve_eq {sheet : Snapshot} {spec : Spec} {text : String}
    (h : lookup sheet spec = .ok text) : resolve sheet spec = text := by
  rw [resolve, h]

theorem resolve_of_ne_ok {sheet : Snapshot} {spec : Spec}
    (h : ∀ text, lookup sheet spec ≠ .ok text) : resolve sheet spec = notAvailable := by
  rw [resolve]
  cases looked : lookup sheet spec with
  | ok text => exact absurd looked (h text)
  | error fault => rfl

theorem resolve_of_malformed {sheet : Snapshot} {spec : Spec}
    (h : ∃ ref ∈ spec.refs, Reference.Malformed ref) : resolve sheet spec = notAvailable := by
  obtain ⟨ref, member, malformed⟩ := h
  exact resolve_of_ne_ok (lookup_ne_ok_of_malformed member malformed)

theorem lookup_eq_ok_resolve {sheet : Snapshot} {spec : Spec}
    (h : ∀ ref ∈ spec.refs, Legible sheet ref) : lookup sheet spec = .ok (resolve sheet spec) := by
  obtain ⟨text, looked⟩ := exists_lookup h
  rw [looked, resolve_eq looked]

theorem resolve_cases (sheet : Snapshot) (spec : Spec) :
    lookup sheet spec = .ok (resolve sheet spec) ∨ resolve sheet spec = notAvailable := by
  rcases exists_ok_or_error (lookup sheet spec) with ⟨text, looked⟩ | ⟨fault, failed⟩
  · exact Or.inl (by rw [looked, resolve_eq looked])
  · refine Or.inr (resolve_of_ne_ok fun text looked => ?_)
    exact error_ne_ok (failed.symm.trans looked)

theorem resolve_monthYear (sheet : Snapshot) (ref : String) (format : MonthYearFormat) :
    resolve sheet (.monthYear ref format) = notAvailable ∨
      ∃ month year : Nat, 1 ≤ month ∧ month ≤ 12 ∧ year ≤ 9999 ∧
        formatMonthYear month year format =
          .ok (resolve sheet (.monthYear ref format)).toList := by
  rcases resolve_cases sheet (.monthYear ref format) with looked | missing
  · obtain ⟨cell, -, written⟩ := bind_eq_ok.1 looked
    exact monthYearText_eq_ok (mapError_eq_ok.1 written)
  · exact Or.inl missing

/-- **What does not pass a constant on can be shown as it is.** -/
theorem presentable_resolve {sheet : Snapshot} {spec : Spec} (h : ∀ value, spec ≠ .const value) :
    Presentable (resolve sheet spec).toList := by
  rcases resolve_cases sheet spec with looked | missing
  · cases spec with
    | const value => exact absurd rfl (h value)
    | cell ref =>
      obtain ⟨text, found, shown⟩ := map_eq_ok.1 looked
      obtain ⟨cell, -, ht⟩ := bind_eq_ok.1 found
      rw [← shown, String.toList_ofList]
      exact presentable_textOfCell (mapError_eq_ok.1 ht)
    | join refs separator =>
      obtain ⟨text, joined, shown⟩ := map_eq_ok.1 looked
      obtain ⟨texts, -, ht⟩ := bind_eq_ok.1 joined
      rw [← shown, String.toList_ofList, ← Except.ok.inj ht]
      exact presentable_joinTexts _ fun _ => presentable_of_mem_survivors
    | monthYear ref format =>
      rcases resolve_monthYear sheet ref format with missing | ⟨month, year, low, high, -, shown⟩
      · rw [missing]
        exact presentable_notAvailable
      · obtain ⟨text', ht', presentable⟩ := exists_formatMonthYear low high year format
        rw [ht'] at shown
        rwa [← Except.ok.inj shown]
  · rw [missing]
    exact presentable_notAvailable

/-- **Resolving always gives a text.** It gives what is looked up if the references are legible, and
`N/A` if one is malformed. A constant is passed on, and everything else can be shown as it is, a
month and a year as those of the calendar. A set of placeholders keeps its tokens. -/
theorem resolve_outcome (sheet : Snapshot) (spec : Spec) (placeholders : Keyed Spec) :
    ((∀ ref ∈ spec.refs, Legible sheet ref) → lookup sheet spec = .ok (resolve sheet spec)) ∧
    ((∃ ref ∈ spec.refs, Reference.Malformed ref) → resolve sheet spec = notAvailable) ∧
    (∀ value, spec = .const value → resolve sheet spec = value) ∧
    ((∀ value, spec ≠ .const value) → Presentable (resolve sheet spec).toList) ∧
    (∀ ref format, spec = .monthYear ref format →
      resolve sheet spec = notAvailable ∨
        ∃ month year : Nat, 1 ≤ month ∧ month ≤ 12 ∧ year ≤ 9999 ∧
          formatMonthYear month year format = .ok (resolve sheet spec).toList) ∧
    List.Forall₂ (fun placeholder text =>
      text.1 = placeholder.1 ∧ text.2 = resolve sheet placeholder.2)
      placeholders (resolveAll sheet placeholders) := by
  refine ⟨lookup_eq_ok_resolve, resolve_of_malformed, ?_, presentable_resolve, ?_, ?_⟩
  · rintro value rfl
    exact resolve_const sheet value
  · rintro ref format rfl
    exact resolve_monthYear sheet ref format
  · rw [resolveAll, List.forall₂_map_right_iff, List.forall₂_same]
    exact fun placeholder _ => ⟨rfl, rfl⟩

end SlideMerge.Placeholder
