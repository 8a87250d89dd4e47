import SlideMerge.Placeholder.DateText
import SlideMerge.Proofs.Numeral
import SlideMerge.Proofs.Trimming

/-!
# The grammar of date texts

A date text is written in parts: blanks, the digits of the month and a slash, those of the day and a
slash, those of the year, and anything that does not go on with a digit (`DateSpelling`). Nothing
asks the blanks or the digits of month and day to be all there are; that they are follows, because a
slash is neither, and so a text has at most one reading.

**Each reader is exact.** The number before a slash (`readBeforeSlash_eq_some_iff`) and the year
(`readYear_eq_some_iff`) are read if and only if the text is cut in such a way, so the date is read
if and only if the text has a spelling (`readDateText_eq_some_iff`).

**Scripts.** The readers look at a digit only by its value, so writing the digits in another script
changes nothing (`readDateText_map`).

Main result: `readDateText_grammar`.
-/

namespace SlideMerge.Placeholder

open Text

/-! ## Numbers before a slash -/

theorem readBeforeSlash_run {run rest : List Char} (hr : ∀ c ∈ run, isDigit c)
    (hl : run.length = 1 ∨ run.length = 2) :
    readBeforeSlash (run ++ '/' :: rest) = some (digitsValue run, rest) := by
  have ends : ∀ c ∈ ('/' :: rest).head?, isDigit c = false := by
    rintro c ⟨⟩
    rfl
  rw [readBeforeSlash, takeWhile_run hr ends, dropWhile_run hr ends]
  rcases hl with hl | hl <;> simp only [hl]

/-- **The number before a slash is one or two digits and nothing else.** -/
theorem readBeforeSlash_eq_some_iff {cs rest : List Char} {n : Nat} :
    readBeforeSlash cs = some (n, rest) ↔
      ∃ run, cs = run ++ '/' :: rest ∧ (∀ c ∈ run, isDigit c) ∧
        (run.length = 1 ∨ run.length = 2) ∧ digitsValue run = n := by
  constructor
  · intro h
    have parts := (cs.takeWhile_append_dropWhile (p := isDigit)).symm
    have digits : ∀ c ∈ cs.takeWhile isDigit, isDigit c := fun c hc => List.mem_takeWhile_imp hc
    unfold readBeforeSlash at h
    dsimp only at h
    split at h
    · next one slash =>
      obtain ⟨rfl, rfl⟩ := Prod.mk.inj (Option.some.inj h)
      exact ⟨_, slash ▸ parts, digits, .inl one, rfl⟩
    · next two slash =>
      obtain ⟨rfl, rfl⟩ := Prod.mk.inj (Option.some.inj h)
      exact ⟨_, slash ▸ parts, digits, .inr two, rfl⟩
    · cases h
  · rintro ⟨run, rfl, digits, length, rfl⟩
    exact readBeforeSlash_run digits length

/-! ## Years -/

/-- The year that digits mean: two of them lie in the years from 2000 to 2099. -/
def yearOfDigits (run : List Char) : Nat :=
  if run.length = 2 then 2000 + digitsValue run else digitsValue run

theorem readYear_run {run rest : List Char} (hr : ∀ c ∈ run, isDigit c)
    (hs : ∀ c ∈ rest.head?, isDigit c = false) (hl : run.length = 2 ∨ run.length = 4) :
    readYear (run ++ rest) = some (yearOfDigits run) := by
  rw [readYear, takeWhile_run hr hs, yearOfDigits]
  rcases hl with hl | hl <;> simp [hl]

/-- **The year is a run of two or four digits that ends with them.** -/
theorem readYear_eq_some_iff {cs : List Char} {year : Nat} :
    readYear cs = some year ↔
      ∃ run rest, cs = run ++ rest ∧ (∀ c ∈ run, isDigit c) ∧
        (∀ c ∈ rest.head?, isDigit c = false) ∧
        (run.length = 2 ∨ run.length = 4) ∧ yearOfDigits run = year := by
  constructor
  · intro h
    have parts := (cs.takeWhile_append_dropWhile (p := isDigit)).symm
    have digits : ∀ c ∈ cs.takeWhile isDigit, isDigit c := fun c hc => List.mem_takeWhile_imp hc
    have ends : ∀ c ∈ (cs.dropWhile isDigit).head?, isDigit c = false := by
      intro c hc
      have other := List.head?_dropWhile_not isDigit cs
      rw [Option.mem_def] at hc
      simpa [hc] using other
    unfold readYear at h
    dsimp only at h
    split at h
    · next two =>
      refine ⟨_, _, parts, digits, ends, .inl two, ?_⟩
      rw [yearOfDigits, if_pos two]
      exact Option.some.inj h
    · next four =>
      refine ⟨_, _, parts, digits, ends, .inr four, ?_⟩
      rw [yearOfDigits, if_neg (by omega)]
      exact Option.some.inj h
    · cases h
  · rintro ⟨run, rest, rfl, digits, ends, length, rfl⟩
    exact readYear_run digits ends length

/-! ## Dates -/

/-- One or two digits that write a number from 1 to the limit. -/
structure ShortNumber (limit : Nat) where
  digits : List Char
  isDigit_of_mem : ∀ c ∈ digits, isDigit c
  length : digits.length = 1 ∨ digits.length = 2
  one_le : 1 ≤ digitsValue digits
  le_limit : digitsValue digits ≤ limit

/-- A way to write a date: blanks, the month, the day and the year with slashes between them, and
anything that does not go on with a digit. -/
structure DateSpelling where
  before : List Char
  month : ShortNumber 12
  day : ShortNumber 31
  year : List Char
  after : List Char
  blank_before : ∀ c ∈ before, isBlank c
  year_digit : ∀ c ∈ year, isDigit c
  year_length : year.length = 2 ∨ year.length = 4
  after_head : ∀ c ∈ after.head?, isDigit c = false

theorem trimStart_run {run rest : List Char} (hr : ∀ c ∈ run, isDigit c) (hn : run ≠ []) :
    trimStart (run ++ rest) = run ++ rest := by
  have first : ∀ c ∈ (run ++ rest).head?, isBlank c = false := by
    intro c hc
    rw [List.head?_append, List.head?_eq_some_head hn, Option.some_or] at hc
    exact isBlank_of_isDigit (hr c (List.mem_of_mem_head? (List.head?_eq_some_head hn ▸ hc)))
  exact @trimStart_eq [] (run ++ rest) (fun _ hc => nomatch hc) first

/-- Blanks in front are skipped. -/
theorem trimStart_append {before : List Char} (hb : ∀ c ∈ before, isBlank c) (cs : List Char) :
    trimStart (before ++ cs) = trimStart cs :=
  List.dropWhile_append_of_pos hb

namespace DateSpelling

/-- What is written from the month on. -/
def body (s : DateSpelling) : List Char :=
  s.month.digits ++ '/' :: (s.day.digits ++ '/' :: (s.year ++ s.after))

/-- What is written. -/
def text (s : DateSpelling) : List Char :=
  s.before ++ s.body

/-- The month and the year of the date. -/
def date (s : DateSpelling) : Nat × Nat :=
  (digitsValue s.month.digits, yearOfDigits s.year)

/-- The same date with something else behind it. -/
def withAfter (s : DateSpelling) (after : List Char) (h : ∀ c ∈ after.head?, isDigit c = false) :
    DateSpelling :=
  { s with after := after, after_head := h }

theorem trimStart_text (s : DateSpelling) : trimStart s.text = s.body := by
  have nonempty : s.month.digits ≠ [] := by
    intro empty
    have length := s.month.length
    simp [empty] at length
  rw [text, trimStart_append s.blank_before, body, trimStart_run s.month.isDigit_of_mem nonempty]

theorem readDateText_text (s : DateSpelling) : readDateText s.text = some s.date := by
  have month : readBeforeSlash s.body =
      some (digitsValue s.month.digits, s.day.digits ++ '/' :: (s.year ++ s.after)) :=
    readBeforeSlash_run s.month.isDigit_of_mem s.month.length
  have day : readBeforeSlash (s.day.digits ++ '/' :: (s.year ++ s.after)) =
      some (digitsValue s.day.digits, s.year ++ s.after) :=
    readBeforeSlash_run s.day.isDigit_of_mem s.day.length
  have year := readYear_run s.year_digit s.after_head s.year_length
  have inRange :=
    And.intro s.month.one_le (And.intro s.month.le_limit (And.intro s.day.one_le s.day.le_limit))
  rw [readDateText, s.trimStart_text]
  simp only [Option.bind_eq_bind, month, day, year, Option.bind_some, if_pos inRange]
  rfl

end DateSpelling

/-- **A date is read from its spellings and from nothing else.** -/
theorem readDateText_eq_some_iff {text : List Char} {date : Nat × Nat} :
    readDateText text = some date ↔ ∃ s : DateSpelling, text = s.text ∧ s.date = date := by
  constructor
  · intro h
    obtain ⟨before, around, blank⟩ := exists_eq_append_trimStart text
    unfold readDateText at h
    obtain ⟨⟨month, rest⟩, hmonth, h⟩ := Option.bind_eq_some_iff.1 h
    obtain ⟨⟨day, rest'⟩, hday, h⟩ := Option.bind_eq_some_iff.1 h
    obtain ⟨year, hyear, h⟩ := Option.bind_eq_some_iff.1 h
    split_ifs at h with inRange
    obtain ⟨m, m', d, d'⟩ := inRange
    obtain ⟨months, hm, monthDigit, monthLength, rfl⟩ := readBeforeSlash_eq_some_iff.1 hmonth
    obtain ⟨days, hd, dayDigit, dayLength, rfl⟩ := readBeforeSlash_eq_some_iff.1 hday
    obtain ⟨years, after, hy, yearDigit, ends, yearLength, rfl⟩ := readYear_eq_some_iff.1 hyear
    refine ⟨⟨before, ⟨months, monthDigit, monthLength, m, m'⟩, ⟨days, dayDigit, dayLength, d, d'⟩,
      years, after, blank, yearDigit, yearLength, ends⟩, ?_, Option.some.inj h⟩
    rw [DateSpelling.text, DateSpelling.body, ← hy, ← hd, ← hm]
    exact around
  · rintro ⟨s, rfl, rfl⟩
    exact s.readDateText_text

/-! ## Scripts -/

/-- The digit of the same value from `0` to `9`; any other character stays as it is. -/
def plainDigit (c : Char) : Char :=
  match digitValue? c with
  | some value => Nat.digitChar value
  | none => c

theorem digitValue?_plainDigit (c : Char) : digitValue? (plainDigit c) = digitValue? c := by
  cases h : digitValue? c with
  | none => rw [plainDigit, h, h]
  | some value =>
    rw [plainDigit, h]
    exact Numeric.digitValue?_digitChar_eq (digitValue?_lt h)

theorem isDigit_plainDigit (c : Char) : isDigit (plainDigit c) = isDigit c := by
  rw [isDigit, digitValue?_plainDigit, isDigit]

theorem plainDigit_of_not_isDigit {c : Char} (h : isDigit c = false) : plainDigit c = c := by
  have none : digitValue? c = none := by simpa [isDigit] using h
  rw [plainDigit, none]

theorem isBlank_plainDigit (c : Char) : isBlank (plainDigit c) = isBlank c := by
  cases h : isDigit c with
  | false => rw [plainDigit_of_not_isDigit h]
  | true => rw [isBlank_of_isDigit h, isBlank_of_isDigit ((isDigit_plainDigit c).trans h)]

theorem plainDigit_eq_slash_iff {c : Char} : plainDigit c = '/' ↔ c = '/' := by
  constructor
  · intro h
    have other : isDigit c = false := by
      rw [← isDigit_plainDigit, h]
      rfl
    rwa [plainDigit_of_not_isDigit other] at h
  · rintro rfl
    rfl

theorem digitsValue_map_plainDigit (cs : List Char) :
    digitsValue (cs.map plainDigit) = digitsValue cs := by
  simp only [digitsValue, List.foldl_map, digitValue?_plainDigit]

section Map

variable (cs : List Char)

theorem takeWhile_map_plainDigit :
    (cs.map plainDigit).takeWhile isDigit = (cs.takeWhile isDigit).map plainDigit := by
  have same : isDigit ∘ plainDigit = isDigit := funext isDigit_plainDigit
  rw [List.takeWhile_map, same]

theorem dropWhile_map_plainDigit :
    (cs.map plainDigit).dropWhile isDigit = (cs.dropWhile isDigit).map plainDigit := by
  have same : isDigit ∘ plainDigit = isDigit := funext isDigit_plainDigit
  rw [List.dropWhile_map, same]

theorem trimStart_map : trimStart (cs.map plainDigit) = (trimStart cs).map plainDigit := by
  have same : isBlank ∘ plainDigit = isBlank := funext isBlank_plainDigit
  rw [trimStart, List.dropWhile_map, same, trimStart]

theorem readBeforeSlash_map : readBeforeSlash (cs.map plainDigit) =
    (readBeforeSlash cs).map fun (n, rest) => (n, rest.map plainDigit) := by
  simp only [readBeforeSlash, takeWhile_map_plainDigit, dropWhile_map_plainDigit, List.length_map,
    digitsValue_map_plainDigit]
  generalize (cs.takeWhile isDigit).length = length
  generalize digitsValue (cs.takeWhile isDigit) = value
  cases cs.dropWhile isDigit with
  | nil =>
    rw [List.map_nil]
    split <;> simp_all
  | cons c rest =>
    rw [List.map_cons]
    by_cases slash : c = '/'
    · rw [plainDigit_eq_slash_iff.2 slash, slash]
      split <;> simp_all
    · have slash' : plainDigit c ≠ '/' := fun h => slash (plainDigit_eq_slash_iff.1 h)
      split <;> simp_all

theorem readYear_map : readYear (cs.map plainDigit) = readYear cs := by
  simp only [readYear, takeWhile_map_plainDigit, List.length_map, digitsValue_map_plainDigit]

/-- **The script of the digits does not matter.** -/
theorem readDateText_map : readDateText (cs.map plainDigit) = readDateText cs := by
  rw [readDateText, readDateText, trimStart_map, readBeforeSlash_map]
  cases readBeforeSlash (trimStart cs) with
  | none => rfl
  | some month =>
    obtain ⟨month, rest⟩ := month
    simp only [Option.map_some, Option.bind_eq_bind, Option.bind_some, readBeforeSlash_map]
    cases readBeforeSlash rest with
    | none => rfl
    | some day =>
      obtain ⟨day, rest⟩ := day
      simp only [Option.map_some, Option.bind_some, readYear_map]

end Map

/-- **A date text is read by its grammar.** A month and a year are read from a text if and only if
it has a spelling with them, and nothing is read from any other text. So what has been read stays
when something is added that does not begin with a digit, blanks in front change nothing, and
neither do the scripts in which the digits are written. -/
theorem readDateText_grammar :
    (∀ text month year, readDateText text = some (month, year) ↔
      ∃ s : DateSpelling, text = s.text ∧ digitsValue s.month.digits = month ∧
        year = if s.year.length = 4 then digitsValue s.year else 2000 + digitsValue s.year) ∧
    (∀ text, readDateText text = none ↔ ∀ s : DateSpelling, text ≠ s.text) ∧
    (∀ text after date, readDateText text = some date → (∀ c ∈ after.head?, isDigit c = false) →
      readDateText (text ++ after) = some date) ∧
    (∀ before text, (∀ c ∈ before, isBlank c) → readDateText (before ++ text) = readDateText text) ∧
    ∀ text other, text.map plainDigit = other.map plainDigit →
      readDateText text = readDateText other := by
  refine ⟨?_, ?_, ?_, ?_, ?_⟩
  · intro text month year
    have years (s : DateSpelling) : yearOfDigits s.year = year ↔
        year = if s.year.length = 4 then digitsValue s.year else 2000 + digitsValue s.year := by
      rw [yearOfDigits]
      rcases s.year_length with two | four
      · simp [two, eq_comm]
      · simp [four, eq_comm]
    simp only [readDateText_eq_some_iff, DateSpelling.date, Prod.mk.injEq, years]
  · intro text
    rw [← Option.not_isSome_iff_eq_none, Option.isSome_iff_exists]
    simp only [readDateText_eq_some_iff, not_exists, not_and]
    exact ⟨fun h s hs => h _ s hs rfl, fun h _ s hs => absurd hs (h s)⟩
  · intro text after date h ends
    obtain ⟨s, rfl, rfl⟩ := readDateText_eq_some_iff.1 h
    have behind : ∀ c ∈ (s.after ++ after).head?, isDigit c = false := by
      intro c hc
      cases empty : s.after with
      | nil => exact ends c (by simpa [empty] using hc)
      | cons d rest => exact s.after_head c (by simpa [empty] using hc)
    refine readDateText_eq_some_iff.2 ⟨s.withAfter (s.after ++ after) behind, ?_, rfl⟩
    simp [DateSpelling.text, DateSpelling.body, DateSpelling.withAfter]
  · intro before text blank
    rw [readDateText, readDateText, trimStart_append blank]
  · intro text other same
    rw [← readDateText_map text, same, readDateText_map]

/-- Digits of three scripts behind an ideographic space, with the time of day behind them. -/
theorem readDateText_grammar_scripts :
    readDateText "\u3000３/०४/٢٤ 10:00".toList = some (3, 2024) := by
  have plain : readDateText "3/04/24".toList = some (3, 2024) := by decide
  have ends : ∀ c ∈ " 10:00".toList.head?, isDigit c = false := by
    rintro c ⟨⟩
    rfl
  have blank : ∀ c ∈ "\u3000".toList, isBlank c := List.all_eq_true.1 (by decide)
  have longer := readDateText_grammar.2.2.1 _ _ _ plain ends
  have later := readDateText_grammar.2.2.2.1 _ ("3/04/24".toList ++ " 10:00".toList) blank
  have scripts := readDateText_grammar.2.2.2.2 "\u3000３/०४/٢٤ 10:00".toList
    ("\u3000".toList ++ ("3/04/24".toList ++ " 10:00".toList)) (by decide)
  exact scripts.trans (later.trans longer)

end SlideMerge.Placeholder
