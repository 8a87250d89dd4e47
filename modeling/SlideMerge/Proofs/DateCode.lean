import SlideMerge.Format.Kind
import SlideMerge.Proofs.Numeral
import SlideMerge.Proofs.Trimming

/-!
# What date codes show

A code is taken apart in three steps: its first section is split off, the parts in brackets are
dropped, and the rest is cut into fields and literal text. Plain text at the beginning of a code
goes through the first two unchanged (`sections_append`, `stripBrackets_append`), and a run of one
letter is a field as far as it goes (`dateParts_run`).

A `SlashCode` writes month, day and year with slashes between them. Nothing that follows the year
can change that: a field of `m` is a minute only next to hours or seconds, and here a day stands
next to it.

Main result: `SlashCode.exists_formatDateTime`.
-/

namespace SlideMerge.Format

open Text Numeric Calendar

/-! ## Beginnings of codes -/

theorem sections_append {plain : List Char} (h : ∀ c ∈ plain, c ∉ ['\\', '"', ';'])
    (rest : List Char) : (sections (plain ++ rest)).1 = plain ++ (sections rest).1 := by
  induction plain with
  | nil => rfl
  | cons c plain ih =>
    obtain ⟨hc, hp⟩ := List.forall_mem_cons.1 h
    simp only [List.mem_cons, List.not_mem_nil, or_false, not_or] at hc
    simp only [sections] at ih ⊢
    rw [List.cons_append, splitFrom]
    simp only [hc, Bool.false_eq_true, if_false, false_and, consFirst, ih hp, List.cons_append]

theorem stripBrackets_append {plain : List Char} (h : '[' ∉ plain) (rest : List Char) :
    stripBrackets (plain ++ rest) = plain ++ stripBrackets rest := by
  induction plain with
  | nil => rfl
  | cons c plain ih =>
    rw [List.mem_cons, not_or] at h
    simp only [stripBrackets] at ih ⊢
    rw [List.cons_append, stripFrom, if_neg (Ne.symm h.1), ih h.2, List.cons_append]

/-- A character without a meaning of its own begins a field or stands for itself. -/
theorem dateParts_cons {c : Char} (h : c ∉ ['"', '\\', '_', '*']) (rest : List Char) :
    dateParts (c :: rest) =
      match fieldLength (c :: rest) with
      | 0 => .literal [c] :: dateParts rest
      | n + 1 => .field (c :: rest.take n) :: dateParts (rest.drop n) := by
  simp only [List.mem_cons, List.not_mem_nil, or_false, not_or] at h
  obtain ⟨quote, backslash, underscore, asterisk⟩ := h
  exact dateParts.eq_6 c rest quote (fun _ _ eq _ => backslash eq) (fun _ _ eq _ => underscore eq)
    fun _ _ eq _ => asterisk eq

theorem dateParts_run {c : Char} {inRun : Char → Bool} (hc : runClass? c = some inRun)
    (hm : c ∉ ['"', '\\', '_', '*']) {run rest : List Char} (hrun : ∀ d ∈ run, inRun d)
    (hrest : ∀ d ∈ rest.head?, inRun d = false) :
    dateParts (c :: (run ++ rest)) = .field (c :: run) :: dateParts rest := by
  have length : fieldLength (c :: (run ++ rest)) = run.length + 1 := by
    simp only [fieldLength, hc, takeWhile_run hrun hrest, Nat.add_comm]
  rw [dateParts_cons hm, length]
  simp only [List.take_left, List.drop_left]

theorem dateParts_literal {c : Char} (hc : runClass? c = none)
    (hm : c ∉ ['"', '\\', '_', '*']) (ha : c.toLower ≠ 'a') (hp : c ≠ '.') (rest : List Char) :
    dateParts (c :: rest) = .literal [c] :: dateParts rest := by
  have length : fieldLength (c :: rest) = 0 := by
    simp [fieldLength, hc, beginsWith, ha, hp]
  rw [dateParts_cons hm, length]

/-! ## Spaces -/

/-- A text that is empty or begins with a space. -/
def SpaceFirst (cs : List Char) : Prop :=
  ∀ c ∈ cs.head?, c = ' '

theorem spaceFirst_cons (rest : List Char) : SpaceFirst (' ' :: rest) := by
  rintro c ⟨⟩
  rfl

theorem SpaceFirst.cases {cs : List Char} (h : SpaceFirst cs) :
    cs = [] ∨ ∃ rest, cs = ' ' :: rest := by
  cases cs with
  | nil => exact .inl rfl
  | cons c rest => exact .inr ⟨rest, by rw [h c rfl]⟩

theorem spaceFirst_sections {cs : List Char} (h : SpaceFirst cs) : SpaceFirst (sections cs).1 := by
  obtain rfl | ⟨rest, rfl⟩ := h.cases
  · exact h
  · have kept : (sections (' ' :: rest)).1 = ' ' :: (sections rest).1 :=
      @sections_append [' '] (List.forall_mem_singleton.2 (by decide)) rest
    exact kept ▸ spaceFirst_cons _

theorem spaceFirst_stripBrackets {cs : List Char} (h : SpaceFirst cs) :
    SpaceFirst (stripBrackets cs) := by
  obtain rfl | ⟨rest, rfl⟩ := h.cases
  · exact h
  · have kept : stripBrackets (' ' :: rest) = ' ' :: stripBrackets rest :=
      @stripBrackets_append [' '] (by decide +kernel) rest
    exact kept ▸ spaceFirst_cons _

theorem dateParts_space (rest : List Char) :
    dateParts (' ' :: rest) = .literal [' '] :: dateParts rest :=
  dateParts_literal rfl (by decide) (by decide) (by decide) rest

theorem dateParts_slash (rest : List Char) :
    dateParts ('/' :: rest) = .literal ['/'] :: dateParts rest :=
  dateParts_literal rfl (by decide) (by decide) (by decide) rest

/-! ## Codes with slashes -/

/-- A field of a letter that is repeated so many times after the first. -/
def letterField (c : Char) (more : Nat) : List Char :=
  c :: List.replicate more c

theorem mem_letterField {c d : Char} {more : Nat} : d ∈ letterField c more ↔ d = c := by
  rw [letterField, List.mem_cons, List.mem_replicate]
  exact or_iff_left_of_imp And.right

theorem dateParts_letterField {c : Char} {inRun : Char → Bool} (hc : runClass? c = some inRun)
    (hr : inRun c) (hm : c ∉ ['"', '\\', '_', '*']) (more : Nat) {rest : List Char}
    (hrest : ∀ d ∈ rest.head?, inRun d = false) :
    dateParts (letterField c more ++ rest) = .field (letterField c more) :: dateParts rest :=
  dateParts_run hc hm (fun _ hd => List.eq_of_mem_replicate hd ▸ hr) hrest

/-- The codes of dates with slashes between month, day and year, the month and the day of one or two
letters and the year of two or four, which may go on after a space in any way. -/
structure SlashCode where
  longMonth : Bool
  longDay : Bool
  longYear : Bool
  suffix : List Char
  spaceFirst : SpaceFirst suffix

namespace SlashCode

def monthField (code : SlashCode) : List Char :=
  letterField 'm' code.longMonth.toNat

def dayField (code : SlashCode) : List Char :=
  letterField 'd' code.longDay.toNat

def yearField (code : SlashCode) : List Char :=
  letterField 'y' (if code.longYear then 3 else 1)

/-- The code up to the end of the year. -/
def front (code : SlashCode) : List Char :=
  code.monthField ++ '/' :: (code.dayField ++ '/' :: code.yearField)

/-- The code as it is written. -/
def text (code : SlashCode) : List Char :=
  code.front ++ code.suffix

variable (code : SlashCode)

theorem front_plain : ∀ c ∈ code.front, c ∉ ['\\', '"', ';', '['] := by
  intro c hc
  simp only [front, monthField, dayField, yearField, List.mem_append, List.mem_cons,
    mem_letterField] at hc
  obtain rfl | rfl | rfl | rfl | rfl := hc <;> decide

theorem isDateCode_text : isDateCode code.text := by
  have begins : ∃ rest, code.text = 'm' :: rest := ⟨_, rfl⟩
  obtain ⟨rest, h⟩ := begins
  have first : firstPart ('m' :: rest) = 'm' :: firstPart rest := rfl
  rw [h, isDateCode, first, dropLiterals]
  simp [hasDateLetter, isDateLetter]

/-- What is left of the suffix still begins with a space, if there is anything. -/
theorem exists_dateParts : ∃ rest, SpaceFirst rest ∧
    dateParts (stripBrackets (sections code.text).1) =
      .field code.monthField :: .literal ['/'] :: .field code.dayField :: .literal ['/'] ::
        .field code.yearField :: dateParts rest := by
  have plain := code.front_plain
  have first : (sections code.text).1 = code.front ++ (sections code.suffix).1 :=
    sections_append (fun c hc => mt (List.Sublist.mem · (by simp)) (plain c hc)) _
  have shown : stripBrackets (sections code.text).1 =
      code.front ++ stripBrackets (sections code.suffix).1 := by
    rw [first, stripBrackets_append fun h => plain _ h (by decide)]
  have space := spaceFirst_stripBrackets (spaceFirst_sections code.spaceFirst)
  refine ⟨stripBrackets (sections code.suffix).1, space, ?_⟩
  have slash {p : Char → Bool} (hp : p '/' = false) (cs : List Char) :
      ∀ c ∈ ('/' :: cs).head?, p c = false := by
    rintro c ⟨⟩
    exact hp
  rw [shown, front]
  simp only [List.append_assoc, List.cons_append]
  rw [monthField, dateParts_letterField rfl rfl (by decide) _ (slash (by decide) _),
    dateParts_slash, dayField,
    dateParts_letterField rfl rfl (by decide) _ (slash (by decide) _),
    dateParts_slash, yearField,
    dateParts_letterField rfl rfl (by decide) _ fun c hc => space c hc ▸ rfl]

theorem markMinutes_fields (rest : List DatePart) :
    markMinutes (.field code.monthField :: .literal ['/'] :: .field code.dayField ::
      .literal ['/'] :: .field code.yearField :: rest) =
      .field code.monthField :: .literal ['/'] :: .field code.dayField :: .literal ['/'] ::
        .field code.yearField :: markMinutesAfter (some code.yearField) rest := by
  have next : (firstField? (.literal ['/'] :: .field code.dayField :: .literal ['/'] ::
      .field code.yearField :: rest)).any isSecondField = false := rfl
  have day : isShortM code.dayField = false := rfl
  have year : isShortM code.yearField = false := rfl
  simp only [markMinutes, markMinutesAfter, next, day, year, Option.any_none, Bool.or_false,
    Bool.and_false, Bool.false_and, Bool.false_eq_true, if_false]

/-- The digits that the field of the year shows. -/
def yearDigits (year : Nat) : List Char :=
  if code.longYear then paddedDecimal 4 year else paddedDecimal 2 (year % 100)

section Shown

variable (twelve : Bool) (t : DateTime)

theorem render_monthField : DatePart.render twelve t (.field code.monthField) =
    shortOrPadded code.monthField.length t.date.month := by
  rw [monthField]
  cases code.longMonth <;> rfl

theorem render_dayField : DatePart.render twelve t (.field code.dayField) =
    shortOrPadded code.dayField.length t.date.day := by
  rw [dayField]
  cases code.longDay <;> rfl

theorem render_yearField : DatePart.render twelve t (.field code.yearField) =
    code.yearDigits t.date.year := by
  rw [yearField, yearDigits]
  cases code.longYear <;> rfl

theorem spaceFirst_rendered {rest : List Char} (h : SpaceFirst rest)
    (previous : Option (List Char)) :
    SpaceFirst ((markMinutesAfter previous (dateParts rest)).flatMap
      (DatePart.render twelve t)) := by
  obtain rfl | ⟨rest, rfl⟩ := h.cases
  · rw [dateParts]
    exact h
  · rw [dateParts_space]
    exact spaceFirst_cons _

/-- **A code with slashes shows the month, the day and the year with slashes between them**, and
after them nothing or something that begins with a space. -/
theorem exists_formatDateTime : ∃ rest, SpaceFirst rest ∧
    formatDateTime t code.text =
      shortOrPadded code.monthField.length t.date.month ++ '/' ::
        (shortOrPadded code.dayField.length t.date.day ++ '/' ::
          (code.yearDigits t.date.year ++ rest)) := by
  obtain ⟨rest, space, parts⟩ := code.exists_dateParts
  have marked := code.markMinutes_fields (dateParts rest)
  rw [← parts, ← datePartsOfCode] at marked
  rw [formatDateTime, marked]
  generalize List.any _ DatePart.asksTwelveHour = twelve
  refine ⟨_, spaceFirst_rendered twelve t space (some code.yearField), ?_⟩
  simp only [List.flatMap_cons, render_monthField, render_dayField, render_yearField]
  rfl

end Shown

end SlashCode

end SlideMerge.Format
