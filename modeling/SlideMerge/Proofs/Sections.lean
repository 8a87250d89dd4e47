import Mathlib.Data.List.TakeWhile
import SlideMerge.Format.NumberCode

/-!
# Sections of a code

A code is split into sections at its semicolons, and a number is shown with one of them.

**Closed texts** (`IsClosed`). The splitter passes over a closed text and goes on behind it as if it
began there (`splitFrom_closed`). So closed texts that are joined by semicolons are split again
(`splitSections_join`).

**Pieces.** Each section of a code is read from the state in which the code itself is read, so a
section is not split further (`splitSections_of_mem`), and joining the sections gives the code back
(`join_splitSections`).

**Choice.** A code of one section shows every number with it (`formatNumber_single`). A code of
several chooses one by the sign of the number, and then does what that section does as a code of its
own.

Main result: `formatNumber_join`.
-/

namespace SlideMerge.Format

open Numeric Text

/-! ## Closed texts -/

/-- Whether the splitter meets no semicolon that separates in the text, and ends outside quotes and
not after a backslash. The flags say that the beginning lies inside quotes, or after a backslash. -/
def isClosedFrom (quoted escaped : Bool) : List Char → Bool
  | [] => !quoted && !escaped
  | c :: rest =>
    if escaped then isClosedFrom quoted false rest
    else if c = '\\' then isClosedFrom quoted true rest
    else if c = '"' then isClosedFrom (!quoted) false rest
    else if c = ';' ∧ quoted = false then false
    else isClosedFrom quoted false rest

/-- A text that is a section by itself, and that a semicolon after it would separate. -/
def IsClosed (sec : List Char) : Prop :=
  isClosedFrom false false sec

instance : DecidablePred IsClosed :=
  fun sec => inferInstanceAs (Decidable (isClosedFrom false false sec = true))

theorem splitFrom_closed {quoted escaped : Bool} {sec : List Char}
    (h : isClosedFrom quoted escaped sec) (rest : List Char) :
    splitFrom quoted escaped (sec ++ rest) = (sec ++ (sections rest).1, (sections rest).2) := by
  induction sec generalizing quoted escaped with
  | nil =>
    have outside : quoted = false ∧ escaped = false := by simpa [isClosedFrom] using h
    simp [outside, sections]
  | cons c sec ih =>
    rw [List.cons_append, splitFrom]
    rw [isClosedFrom] at h
    split_ifs at h ⊢
    · simp [ih h, consFirst]
    · simp [ih h, consFirst]
    · simp [ih h, consFirst]
    · simp [ih h, consFirst]

theorem sections_closed {sec : List Char} (h : IsClosed sec) : sections sec = (sec, []) := by
  have whole := splitFrom_closed h []
  simpa [sections, splitFrom] using whole

/-- **A semicolon after a closed text separates it.** -/
theorem sections_separated {sec : List Char} (h : IsClosed sec) (rest : List Char) :
    sections (sec ++ ';' :: rest) = (sec, splitSections rest) := by
  rw [sections, splitFrom_closed h]
  simp [sections, splitSections, splitFrom]

/-- A closed text belongs to the first section of a code that begins with it. -/
theorem splitSections_append {part : List Char} (h : IsClosed part) (rest : List Char) :
    splitSections (part ++ rest) = (splitSections rest).modifyHead (part ++ ·) := by
  simp [splitSections, sections, splitFrom_closed h]

/-! ## Joining -/

/-- Sections as they are written in a code. -/
def joinSections (secs : List (List Char)) : List Char :=
  [';'].intercalate secs

@[simp] theorem joinSections_singleton (sec : List Char) : joinSections [sec] = sec :=
  List.intercalate_singleton

@[simp] theorem joinSections_cons_cons (sec next : List Char) (secs : List (List Char)) :
    joinSections (sec :: next :: secs) = sec ++ ';' :: joinSections (next :: secs) := by
  simp [joinSections]

/-- **Closed texts are split where they have been joined.** -/
theorem splitSections_join {first : List Char} {others : List (List Char)}
    (h : ∀ sec ∈ first :: others, IsClosed sec) :
    splitSections (joinSections (first :: others)) = first :: others := by
  induction others generalizing first with
  | nil =>
    have closed : IsClosed first := h first List.mem_cons_self
    simp [splitSections, sections_closed closed]
  | cons next others ih =>
    obtain ⟨closed, rest⟩ := List.forall_mem_cons.1 h
    have split := sections_separated closed (joinSections (next :: others))
    rw [joinSections_cons_cons, splitSections, split, ih rest]

theorem join_splitFrom (quoted escaped : Bool) (code : List Char) :
    joinSections ((splitFrom quoted escaped code).1 :: (splitFrom quoted escaped code).2) =
      code := by
  induction code generalizing quoted escaped with
  | nil => simp [splitFrom]
  | cons c code ih =>
    -- a character that stays in the first section stands before the others
    have kept (quoted escaped : Bool) :
        joinSections ((consFirst c (splitFrom quoted escaped code)).1 ::
          (consFirst c (splitFrom quoted escaped code)).2) = c :: code := by
      have rest := ih quoted escaped
      unfold consFirst
      cases others : (splitFrom quoted escaped code).2 with
      | nil => simpa [others] using rest
      | cons next others => simpa [others] using rest
    rw [splitFrom]
    split_ifs with escaped backslash quote separator
    · exact kept quoted false
    · exact kept quoted true
    · exact kept (!quoted) false
    · have rest := ih quoted false
      rw [separator.1]
      simp [rest]
    · exact kept quoted false

/-- **Joining the sections of a code gives the code back.** -/
theorem join_splitSections (code : List Char) : joinSections (splitSections code) = code :=
  join_splitFrom false false code

/-- The first section is read as in the code itself, and the others from the state in which codes
begin. -/
theorem splitFrom_sections (quoted escaped : Bool) (code : List Char) :
    splitFrom quoted escaped (splitFrom quoted escaped code).1 =
        ((splitFrom quoted escaped code).1, []) ∧
      ∀ sec ∈ (splitFrom quoted escaped code).2, sections sec = (sec, []) := by
  induction code generalizing quoted escaped with
  | nil => simp [splitFrom]
  | cons c code ih =>
    rw [splitFrom]
    split_ifs with escaped backslash quote separator
    · simpa [consFirst, splitFrom, escaped, Prod.ext_iff] using ih quoted false
    · simpa [consFirst, splitFrom, escaped, backslash, Prod.ext_iff] using ih quoted true
    · simpa [consFirst, splitFrom, escaped, backslash, quote, Prod.ext_iff] using ih (!quoted) false
    · have rest := ih quoted false
      rw [separator.2] at rest ⊢
      simpa [splitFrom, sections] using rest
    · simpa [consFirst, splitFrom, escaped, backslash, quote, separator, Prod.ext_iff] using
        ih quoted false

/-- **A section is not split further.** -/
theorem splitSections_of_mem {code sec : List Char} (h : sec ∈ splitSections code) :
    splitSections sec = [sec] := by
  obtain ⟨first, others⟩ := splitFrom_sections false false code
  have whole : sections sec = (sec, []) := by
    rcases List.mem_cons.1 h with rfl | inOthers
    · exact first
    · exact others sec inOthers
  rw [splitSections, whole]

/-! ## The section that a number is shown with -/

theorem formatNumber_single {code : List Char} (h : splitSections code = [code]) (value : Number) :
    formatNumber value code = formatSection (stripBrackets code) value value.isNegative := by
  have only : sections code = (code, []) := by
    unfold splitSections at h
    generalize sections code = secs at *
    obtain ⟨first, others⟩ := secs
    obtain ⟨rfl, rfl⟩ := List.cons.inj h
    rfl
  simp [formatNumber, numberSection, only, isBlankText]

@[simp] theorem isNegative_abs (value : Number) : value.abs.isNegative = false := by
  cases value with
  | logical b => cases b <;> rfl
  | integer n => simp [Number.abs, Number.isNegative]
  | real x => simp [Number.abs, Number.isNegative]

theorem not_isNegative_of_isZero {value : Number} (h : value.isZero) :
    value.isNegative = false := by
  cases value with
  | logical b => rfl
  | integer n =>
    have zero : n = 0 := by simpa [Number.isZero] using h
    simp [Number.isNegative, zero]
  | real x =>
    cases x with
    | nan => rfl
    | infinite negative => simp [Number.isZero, Double.isZero] at h
    | finite negative mantissa exponent =>
      have zero : mantissa = 0 := by simpa [Number.isZero, Double.isZero] using h
      simp [Number.isNegative, Double.isNegative, zero]

theorem mem_of_not_blank {secs : List (List Char)} {i : Nat}
    (h : isBlankText (secs.getD i []) = false) : secs.getD i [] ∈ secs := by
  rw [List.getD_eq_getElem?_getD] at h ⊢
  cases found : secs[i]? with
  | none => simp [found, isBlankText] at h
  | some sec =>
    rw [Option.getD_some]
    exact List.mem_of_getElem? found

/-- **The sign of a number chooses the section,** which then shows the number as a code of its own:
the second section shows the magnitude of a negative number. -/
theorem formatNumber_sections {code first : List Char} {others : List (List Char)}
    (h : splitSections code = first :: others) (value : Number) :
    formatNumber value code =
      if value.isNegative ∧ isBlankText (others.getD 0 []) = false then
        formatNumber value.abs (others.getD 0 [])
      else if value.isZero ∧ isBlankText (others.getD 1 []) = false then
        formatNumber value (others.getD 1 [])
      else formatNumber value first := by
  have parts : sections code = (first, others) := by
    obtain ⟨hfirst, hothers⟩ := List.cons.inj h
    rw [← hfirst, ← hothers, sections]
  have alone {sec : List Char} (hs : sec ∈ first :: others) (value : Number) :
      formatNumber value sec = formatSection (stripBrackets sec) value value.isNegative :=
    formatNumber_single (splitSections_of_mem (h ▸ hs)) value
  rw [formatNumber, numberSection, parts]
  by_cases second : value.isNegative ∧ isBlankText (others.getD 0 []) = false
  · have inCode := List.mem_cons_of_mem first (mem_of_not_blank second.2)
    rw [if_pos second, alone inCode, isNegative_abs]
    simp only [second, Bool.not_false, Bool.and_self, if_true]
  · rw [if_neg second]
    by_cases third : value.isZero ∧ isBlankText (others.getD 1 []) = false
    · have inCode := List.mem_cons_of_mem first (mem_of_not_blank third.2)
      have positive := not_isNegative_of_isZero third.1
      rw [if_pos third, alone inCode, positive]
      simp only [third, Bool.not_false, Bool.and_self, Bool.false_and, if_true,
        Bool.false_eq_true, if_false]
    · rw [if_neg third, alone List.mem_cons_self]
      simp only [Bool.and_eq_true, Bool.not_eq_true', second, third, if_false]

/-- **Sections are split where they are joined, and one of them shows the number.** Closed texts
joined by semicolons are the sections of the code, however many there are; a negative number is
shown as its magnitude with the second one, a zero with the third, and every other number with the
first, as is a number whose own section is blank or missing. Any code is its sections, joined, and
no section is split further. -/
theorem formatNumber_join :
    (∀ (first : List Char) (others : List (List Char)) (value : Number),
      (∀ sec ∈ first :: others, IsClosed sec) →
        splitSections (joinSections (first :: others)) = first :: others ∧
        formatNumber value (joinSections (first :: others)) =
          if value.isNegative ∧ isBlankText (others.getD 0 []) = false then
            formatNumber value.abs (others.getD 0 [])
          else if value.isZero ∧ isBlankText (others.getD 1 []) = false then
            formatNumber value (others.getD 1 [])
          else formatNumber value first) ∧
    ∀ code : List Char, joinSections (splitSections code) = code ∧
      ∀ sec ∈ splitSections code, splitSections sec = [sec] := by
  constructor
  · intro first others value closed
    have split := splitSections_join closed
    exact ⟨split, formatNumber_sections split value⟩
  · intro code
    exact ⟨join_splitSections code, fun sec hs => splitSections_of_mem hs⟩

/-- Semicolons in quotes and behind backslashes join no sections, and the magnitude has no sign. -/
theorem formatNumber_join_protectedSemicolons :
    let secs := ["0\"a;b\"".toList, "(0\\;)".toList, "\"none;\"".toList, "@".toList]
    (∀ sec ∈ secs, IsClosed sec) ∧ splitSections (joinSections secs) = secs ∧
      formatNumber (.integer (-5)) (joinSections secs) = .ok "(5;)".toList ∧
      formatNumber (.real (.zero true)) (joinSections secs) = .ok "none;".toList := by
  intro secs
  have closed : ∀ sec ∈ secs, IsClosed sec := by decide +kernel
  obtain ⟨split, negative⟩ := formatNumber_join.1 _ _ (.integer (-5)) closed
  obtain ⟨-, zero⟩ := formatNumber_join.1 _ _ (.real (.zero true)) closed
  refine ⟨closed, split, ?_, ?_⟩
  · rw [negative]
    decide +kernel
  · rw [zero]
    decide +kernel

end SlideMerge.Format
