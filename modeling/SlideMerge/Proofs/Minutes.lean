import SlideMerge.Proofs.Currency
import SlideMerge.Proofs.DateCode
import SlideMerge.Proofs.Sections

/-!
# Months and minutes

A field of one or two `m` is a minute next to a field of hours before it or of seconds behind it,
and a month anywhere else. Literal text is no field, so it does not stand between.

**Stretches.** The parts of a section are marked stretch by stretch: all that matters about the
parts around a stretch is the field before it and the field behind it (`markBetween_append`). Which
clock the hours are shown on can be told without the marks (`any_asksTwelveHour_markBetween`).

**Brackets.** Parts in brackets are dropped before fields are looked for, whatever they hold. The
hours of a duration, `[h]`, are therefore next to nothing, and minutes behind them are shown as the
month (`sectionParts_bracket`).

Main result: `formatDateTime_shortM`.
-/

namespace SlideMerge.Format

open Calendar

/-! ## The fields around a stretch of parts -/

/-- The field that a place before the parts has behind it, where `next` is the one behind the
parts. -/
def fieldBehind (parts : List DatePart) (next : Option (List Char)) : Option (List Char) :=
  (firstField? parts).or next

/-- The field that a place behind the parts has before it, where `previous` is the one before the
parts. -/
def fieldBefore (previous : Option (List Char)) (parts : List DatePart) : Option (List Char) :=
  (firstField? parts.reverse).or previous

theorem firstField?_append (parts parts' : List DatePart) :
    firstField? (parts ++ parts') = (firstField? parts).or (firstField? parts') :=
  List.findSome?_append

@[simp] theorem fieldBehind_append (parts parts' : List DatePart) (next : Option (List Char)) :
    fieldBehind (parts ++ parts') next = fieldBehind parts (fieldBehind parts' next) := by
  rw [fieldBehind, firstField?_append, Option.or_assoc]
  rfl

theorem fieldBefore_cons (previous : Option (List Char)) (part : DatePart) (parts : List DatePart) :
    fieldBefore previous (part :: parts) =
      fieldBefore ((firstField? [part]).or previous) parts := by
  simp [fieldBefore, firstField?_append, Option.or_assoc]

@[simp] theorem fieldBefore_field (previous : Option (List Char)) (text : List Char)
    (parts : List DatePart) :
    fieldBefore previous (.field text :: parts) = fieldBefore (some text) parts :=
  fieldBefore_cons previous (.field text) parts

@[simp] theorem fieldBefore_minute (previous : Option (List Char)) (text : List Char)
    (parts : List DatePart) :
    fieldBefore previous (.minute text :: parts) = fieldBefore previous parts :=
  fieldBefore_cons previous (.minute text) parts

@[simp] theorem fieldBefore_literal (previous : Option (List Char)) (text : List Char)
    (parts : List DatePart) :
    fieldBefore previous (.literal text :: parts) = fieldBefore previous parts :=
  fieldBefore_cons previous (.literal text) parts

/-! ## Marking stretch by stretch -/

/-- A field as it is marked between two others. -/
def markField (previous next : Option (List Char)) (text : List Char) : DatePart :=
  if isShortM text && (previous.any isHourField || next.any isSecondField) then
    .minute (text.map Char.toLower)
  else .field text

/-- Marks the minutes among parts that stand between the fields `previous` and `next`. -/
def markBetween (previous next : Option (List Char)) : List DatePart → List DatePart
  | [] => []
  | .field text :: rest =>
    markField previous (fieldBehind rest next) text :: markBetween (some text) next rest
  | part :: rest => part :: markBetween previous next rest

/-- Behind the last stretch there is no field. -/
theorem markMinutesAfter_eq (previous : Option (List Char)) (parts : List DatePart) :
    markMinutesAfter previous parts = markBetween previous none parts := by
  induction parts generalizing previous with
  | nil => rfl
  | cons part parts ih =>
    cases part with
    | field text => simp [markMinutesAfter, markBetween, markField, fieldBehind, ih]
    | minute text => simp [markMinutesAfter, markBetween, ih]
    | literal text => simp [markMinutesAfter, markBetween, ih]

/-- **Stretches are marked one by one.** -/
theorem markBetween_append (previous next : Option (List Char)) (parts parts' : List DatePart) :
    markBetween previous next (parts ++ parts') =
      markBetween previous (fieldBehind parts' next) parts ++
        markBetween (fieldBefore previous parts) next parts' := by
  induction parts generalizing previous with
  | nil => rfl
  | cons part parts ih =>
    cases part with
    | field text => simp [markBetween, ih]
    | minute text => simp [markBetween, ih]
    | literal text => simp [markBetween, ih]

/-- A field of one or two `m` asks for no clock, so a mark does not change what is asked for. -/
@[simp] theorem asksTwelveHour_markField (previous next : Option (List Char)) (text : List Char) :
    (markField previous next text).asksTwelveHour = (DatePart.field text).asksTwelveHour := by
  rw [markField]
  split_ifs with minute
  · simp only [isShortM, Bool.and_eq_true, Bool.or_eq_true, beq_iff_eq] at minute
    obtain ⟨one | two, -⟩ := minute
    · simp [DatePart.asksTwelveHour, isHalfDayField, one]
    · simp [DatePart.asksTwelveHour, isHalfDayField, two]
  · rfl

@[simp] theorem any_asksTwelveHour_markBetween (previous next : Option (List Char))
    (parts : List DatePart) :
    (markBetween previous next parts).any DatePart.asksTwelveHour =
      parts.any DatePart.asksTwelveHour := by
  induction parts generalizing previous with
  | nil => rfl
  | cons part parts ih =>
    cases part with
    | field text => simp [markBetween, ih]
    | minute text => simp [markBetween, ih]
    | literal text => simp [markBetween, ih]

/-! ## Showing stretch by stretch -/

/-- The parts that the first section of a code is read as. -/
def sectionParts (code : List Char) : List DatePart :=
  dateParts (stripBrackets (sections code).1)

/-- What parts between the fields `previous` and `next` show. -/
def shownBetween (twelve : Bool) (t : DateTime) (previous next : Option (List Char))
    (parts : List DatePart) : List Char :=
  (markBetween previous next parts).flatMap (DatePart.render twelve t)

theorem formatDateTime_eq (t : DateTime) (code : List Char) :
    formatDateTime t code =
      shownBetween ((sectionParts code).any DatePart.asksTwelveHour) t none none
        (sectionParts code) := by
  rw [formatDateTime, datePartsOfCode, markMinutes, markMinutesAfter_eq,
    any_asksTwelveHour_markBetween]
  rfl

variable {twelve : Bool} {t : DateTime} {previous next : Option (List Char)}

theorem shownBetween_append (parts parts' : List DatePart) :
    shownBetween twelve t previous next (parts ++ parts') =
      shownBetween twelve t previous (fieldBehind parts' next) parts ++
        shownBetween twelve t (fieldBefore previous parts) next parts' := by
  rw [shownBetween, markBetween_append, List.flatMap_append]
  rfl

@[simp] theorem shownBetween_literal (text : List Char) (parts : List DatePart) :
    shownBetween twelve t previous next (.literal text :: parts) =
      text ++ shownBetween twelve t previous next parts :=
  rfl

/-- **A field of one or two `m` is a minute next to hours or seconds, and else a month.** -/
theorem shownBetween_shortM {m : List Char} (short : isShortM m) (parts : List DatePart) :
    shownBetween twelve t previous next (.field m :: parts) =
      shortOrPadded m.length
          (if previous.any isHourField ∨
            (fieldBehind parts next).any isSecondField then t.time.minute
            else t.date.month) ++
        shownBetween twelve t (some m) next parts := by
  have text : fieldText twelve t (m.map Char.toLower) = shortOrPadded m.length t.date.month := by
    have length : (m.map Char.toLower).length = m.length := List.length_map _
    simp only [isShortM, Bool.or_eq_true, beq_iff_eq] at short
    obtain one | two := short
    · simp only [one, List.length_singleton] at length
      simp [one, ← length, fieldText]
    · simp only [two, List.length_cons, List.length_nil] at length
      simp [two, ← length, fieldText]
  rw [shownBetween, markBetween, List.flatMap_cons, markField, short, Bool.true_and]
  congr 1
  by_cases near : previous.any isHourField ∨ (fieldBehind parts next).any isSecondField
  · rw [if_pos near, if_pos (by simpa using near)]
    simp [DatePart.render]
  · rw [if_neg near, if_neg (by simpa using near)]
    exact text

/-! ## Brackets -/

theorem bracketSymbol_eq_nil {inner : List Char} (h : inner.head? ≠ some '$') :
    bracketSymbol inner = [] := by
  unfold bracketSymbol
  split
  · exact absurd rfl h
  · rfl

theorem sectionParts_bracket {before inner : List Char} (closed : IsClosed before)
    (bracket : '[' ∉ before) (plain : ∀ c ∈ inner, c ∉ ['\\', '"', ';', ']'])
    (symbol : inner.head? ≠ some '$') (after : List Char) :
    sectionParts (before ++ '[' :: (inner ++ ']' :: after)) = sectionParts (before ++ after) := by
  have passed (rest : List Char) : (sections (before ++ rest)).1 = before ++ (sections rest).1 := by
    rw [sections, splitFrom_closed closed]
  have uncut : ∀ c ∈ '[' :: (inner ++ [']']), c ∉ ['\\', '"', ';'] := by
    intro c hc
    obtain rfl | hc := List.mem_cons.1 hc
    · decide
    · obtain inside | last := List.mem_append.1 hc
      · intro special
        have excluded := plain c inside
        simp only [List.mem_cons, List.not_mem_nil, or_false] at special excluded
        tauto
      · rw [List.mem_singleton.1 last]
        decide
  have first : (sections ('[' :: (inner ++ ']' :: after))).1 =
      '[' :: (inner ++ ']' :: (sections after).1) := by
    simpa using sections_append uncut after
  have unclosed : ']' ∉ inner := fun h => plain ']' h (by decide)
  have dropped : stripBrackets ('[' :: (inner ++ ']' :: (sections after).1)) =
      stripBrackets (sections after).1 := by
    rw [stripBrackets, stripFrom, if_pos rfl, stripFrom_closed unclosed, List.nil_append,
      bracketSymbol_eq_nil symbol]
    rfl
  rw [sectionParts, sectionParts, passed, passed, stripBrackets_append bracket,
    stripBrackets_append bracket, first, dropped]

/-! ## The field of a month or a minute -/

/-- **A field of one or two `m` is the minute next to hours or seconds, and else the month.** What
counts is the nearest field on each side, whatever literal text stands between and in whichever case
the letters are written. A part in brackets that is no currency symbol is not read at all: hours and
seconds of a duration are next to nothing. -/
theorem formatDateTime_shortM (t : DateTime) :
    (∀ (code m : List Char) (before after : List DatePart),
      isShortM m → sectionParts code = before ++ .field m :: after →
        let twelve := (sectionParts code).any DatePart.asksTwelveHour
        formatDateTime t code =
          shownBetween twelve t none (some m) before ++
            (shortOrPadded m.length
                (if (firstField? before.reverse).any isHourField ∨
                    (firstField? after).any isSecondField then t.time.minute
                  else t.date.month) ++
              shownBetween twelve t (some m) none after)) ∧
    ∀ before inner after : List Char,
      IsClosed before → '[' ∉ before → (∀ c ∈ inner, c ∉ ['\\', '"', ';', ']']) →
        inner.head? ≠ some '$' →
          formatDateTime t (before ++ '[' :: (inner ++ ']' :: after)) =
            formatDateTime t (before ++ after) := by
  constructor
  · intro code m before after short parts twelve
    have nearest : fieldBefore none before = firstField? before.reverse := Option.or_none
    have next : fieldBehind after none = firstField? after := Option.or_none
    have behind : fieldBehind (.field m :: after) none = some m := rfl
    rw [formatDateTime_eq, parts, shownBetween_append, shownBetween_shortM short, behind, nearest,
      next, ← parts]
  · intro before inner after closed bracket plain symbol
    rw [formatDateTime_eq, formatDateTime_eq, sectionParts_bracket closed bracket plain symbol]

/-- Five minutes and nine seconds past two in the afternoon. -/
def pastTwo : TimeOfDay := ⟨50709 * microsPerSecond, by decide⟩

/-- With hours before them and a colon between, `mm` are minutes. With the hours in brackets they
are the same as with nothing before them. -/
theorem formatDateTime_shortM_hours :
    let t : DateTime := ⟨timeOnlyDate, pastTwo⟩
    sectionParts "H:mm".toList = [.field ['H'], .literal [':']] ++ .field ['m', 'm'] :: [] ∧
      formatDateTime t "H:mm".toList = "14:05".toList ∧
      formatDateTime t "[h]:mm".toList = formatDateTime t ":mm".toList := by
  intro t
  obtain ⟨fields, brackets⟩ := formatDateTime_shortM t
  have parts : sectionParts "H:mm".toList =
      [.field ['H'], .literal [':']] ++ .field ['m', 'm'] :: [] := by decide +kernel
  have plain : ∀ c ∈ ['h'], c ∉ ['\\', '"', ';', ']'] := List.forall_mem_singleton.2 (by decide)
  refine ⟨parts, ?_, brackets [] ['h'] ":mm".toList (by decide) List.not_mem_nil plain (by decide)⟩
  rw [fields _ _ _ _ (by decide) parts]
  decide +kernel

/-- **Next to hours or seconds in brackets the month stands where the minute belongs.** -/
theorem exists_minute_shown_as_month :
    ∃ t : DateTime, t.time.minute = 5 ∧ formatDateTime t "[h]:mm".toList = ":12".toList ∧
      formatDateTime t "mm[ss]".toList = "12".toList :=
  ⟨⟨timeOnlyDate, pastTwo⟩, by decide, by decide +kernel, by decide +kernel⟩

end SlideMerge.Format
