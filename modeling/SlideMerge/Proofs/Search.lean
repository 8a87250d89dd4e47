import SlideMerge.Proofs.Layout
import SlideMerge.Proofs.Lexemes

/-!
# Where the search finds its patterns

A number code is searched for a pattern with an exponent, then for a fraction, then for digits, and
what is left on the two sides is literal text. The search sees the marks of the section. Literal
text reads the same characters in another way, in which underscores and asterisks take a character
too.

**Spans** (`Takes`). What is taken is a span of visible marks that begins with a placeholder or a
point, and none of its characters opens quotes or takes another (`isSpan_of_takes`). A section from
which nothing is taken is literal text (`formatSection_of_nothing_taken`).

**Lexemes.** Behind steady lexemes the marks of a section are those of the next lexeme
(`marks_behind`). A quoted or escaped character is hidden there; a character behind an underscore or
an asterisk is not, but no span reaches over the mark before it.

Main result: `takes_bare`.
-/

namespace SlideMerge.Format

open Text

/-! ## Spans -/

/-- A visible mark that neither opens quotes nor takes the character behind it. -/
def Mark.IsPattern (m : Mark) : Prop :=
  m.hidden = false ∧ m.char ∉ '"' :: literalTaking

theorem isPattern_of_shows {p : Char → Bool} {m : Mark} (h : m.shows p)
    (hp : ('"' :: literalTaking).any p = false) : m.IsPattern := by
  simp only [Mark.shows, Bool.and_eq_true, Bool.not_eq_true'] at h
  refine ⟨h.1, fun inside => ?_⟩
  exact List.any_eq_false.1 hp _ inside h.2

theorem isPattern_placeholder {m : Mark} (h : m.isPlaceholder) : m.IsPattern :=
  isPattern_of_shows h (by decide)

theorem isPattern_comma {m : Mark} (h : m.isComma) : m.IsPattern :=
  isPattern_of_shows h (by decide)

theorem isPattern_point {m : Mark} (h : m.isPoint) : m.IsPattern :=
  isPattern_of_shows h (by decide)

theorem isPattern_blank {m : Mark} (h : m.isBlank) : m.IsPattern :=
  isPattern_of_shows h (by decide)

/-- A span begins with one of four characters. -/
theorem mem_of_isPlaceholder_or_isPoint {m : Mark} (h : m.isPlaceholder ∨ m.isPoint) :
    m.char ∈ ['0', '#', '?', '.'] := by
  rcases h with place | point
  · have digit : m.char ∈ ['0', '#', '?'] := isDigitPlace_iff.1 (Bool.and_eq_true_iff.1 place).2
    exact List.mem_append_left ['.'] digit
  · have isPoint : m.char = '.' := by simpa using (Bool.and_eq_true_iff.1 point).2
    simp [isPoint]

/-- What a search takes from the marks of a section. -/
structure IsSpan (span : List Mark) : Prop where
  /-- It begins with a placeholder, or with the point of a fraction. -/
  first : ∃ m ∈ span.head?, m.isPlaceholder ∨ m.isPoint
  pattern : ∀ m ∈ span, m.IsPattern

/-- The part of a list that has been read, where what is not read is known. -/
theorem forall_mem_takeWhile {p : Mark → Bool} (hp : ∀ m, p m → m.IsPattern) (ms : List Mark) :
    ∀ m ∈ ms.takeWhile p, m.IsPattern :=
  fun m hm => hp m (List.mem_takeWhile_imp hm)

theorem exists_span_of_readExponent {wholeCount places : Nat} {ms after : List Mark}
    {pattern : ScientificPattern} (h : readExponent wholeCount places ms = some (pattern, after)) :
    ∃ span, ms = span ++ after ∧ ∀ m ∈ span, m.IsPattern := by
  unfold readExponent at h
  split at h
  · next e sign rest =>
    dsimp only at h
    split_ifs at h with shown
    simp only [Bool.and_eq_true] at shown
    obtain ⟨⟨exponent, signed⟩, -⟩ := shown
    obtain ⟨-, rfl⟩ := Prod.mk.inj (Option.some.inj h)
    refine ⟨e :: sign :: rest.takeWhile Mark.isPlaceholder, ?_, ?_⟩
    · have width := List.prefix_iff_eq_take.1 (List.takeWhile_prefix (l := rest) Mark.isPlaceholder)
      conv_lhs => rw [← List.take_append_drop (rest.takeWhile Mark.isPlaceholder).length rest,
        ← width]
      rfl
    · refine List.forall_mem_cons.2 ⟨isPattern_of_shows exponent (by decide), ?_⟩
      refine List.forall_mem_cons.2 ⟨isPattern_of_shows signed (by decide), ?_⟩
      exact forall_mem_takeWhile (fun m => isPattern_placeholder) rest
  · cases h

/-- A placeholder with all the placeholders and commas after it, and what is read behind them. -/
theorem exists_span_of_whole (middle : List Mark) {m : Mark} {rest after : List Mark}
    (place : m.isPlaceholder)
    (behind : rest.dropWhile (fun m => m.isPlaceholder || m.isComma) = middle ++ after)
    (inMiddle : ∀ m ∈ middle, m.IsPattern) :
    ∃ span, m :: rest = span ++ after ∧ IsSpan span := by
  have whole : ∀ d ∈ rest.takeWhile (fun m => m.isPlaceholder || m.isComma), d.IsPattern := by
    apply forall_mem_takeWhile
    intro d hd
    rcases Bool.or_eq_true_iff.1 hd with isPlace | comma
    · exact isPattern_placeholder isPlace
    · exact isPattern_comma comma
  refine ⟨m :: (rest.takeWhile (fun m => m.isPlaceholder || m.isComma) ++ middle), ?_, ?_, ?_⟩
  · rw [List.cons_append, List.append_assoc, ← behind, List.takeWhile_append_dropWhile]
  · exact ⟨m, rfl, .inl place⟩
  · refine List.forall_mem_cons.2 ⟨isPattern_placeholder place, ?_⟩
    exact List.forall_mem_append.2 ⟨whole, inMiddle⟩

theorem exists_span_of_readScientific {ms after : List Mark} {pattern : ScientificPattern}
    (h : readScientific ms = some (pattern, after)) : ∃ span, ms = span ++ after ∧ IsSpan span := by
  cases ms with
  | nil => cases h
  | cons m rest =>
    rw [readScientific] at h
    dsimp only at h
    split_ifs at h with place
    split at h
    · cases h
    · next point tail remains =>
      split_ifs at h with isPoint
      · obtain ⟨exponent, parts, inExponent⟩ := exists_span_of_readExponent h
        have fraction := forall_mem_takeWhile (fun m => isPattern_placeholder) tail
        refine exists_span_of_whole (point :: (tail.takeWhile Mark.isPlaceholder ++ exponent))
          place ?_ ?_
        · rw [List.cons_append, List.append_assoc, ← parts, List.takeWhile_append_dropWhile]
          exact remains
        · refine List.forall_mem_cons.2 ⟨isPattern_point isPoint, ?_⟩
          exact List.forall_mem_append.2 ⟨fraction, inExponent⟩
      · obtain ⟨exponent, parts, inExponent⟩ := exists_span_of_readExponent h
        exact exists_span_of_whole _ place (remains.trans parts) inExponent

theorem exists_span_of_readFraction (whole rest : List Mark) :
    ∃ span, rest = span ++ (readFraction whole rest).2 ∧ ∀ m ∈ span, m.IsPattern := by
  let after := rest.dropWhile Mark.isPlaceholder
  refine ⟨rest.takeWhile Mark.isPlaceholder ++ after.takeWhile Mark.isComma, ?_, ?_⟩
  · show rest = rest.takeWhile Mark.isPlaceholder ++ after.takeWhile Mark.isComma ++
      after.dropWhile Mark.isComma
    rw [List.append_assoc, List.takeWhile_append_dropWhile, List.takeWhile_append_dropWhile]
  · refine List.forall_mem_append.2 ⟨?_, ?_⟩
    · exact forall_mem_takeWhile (fun m => isPattern_placeholder) rest
    · exact forall_mem_takeWhile (fun m => isPattern_comma) after

theorem exists_span_of_readFixed {ms after : List Mark} {pattern : FixedPattern}
    (h : readFixed ms = some (pattern, after)) : ∃ span, ms = span ++ after ∧ IsSpan span := by
  cases ms with
  | nil => cases h
  | cons m rest =>
    rw [readFixed] at h
    dsimp only at h
    split_ifs at h with place point
    · split at h
      · next remains =>
        obtain ⟨-, rfl⟩ := Prod.mk.inj (Option.some.inj h)
        exact exists_span_of_whole [] place remains (List.forall_mem_nil _)
      · next point tail remains =>
        split_ifs at h with isPoint
        · obtain ⟨fraction, parts, inFraction⟩ := exists_span_of_readFraction
            (m :: rest.takeWhile fun m => m.isPlaceholder || m.isComma) tail
          rw [Option.some.inj h] at parts
          refine exists_span_of_whole (point :: fraction) place ?_ ?_
          · rw [List.cons_append, ← parts]
            exact remains
          · exact List.forall_mem_cons.2 ⟨isPattern_point isPoint, inFraction⟩
        · obtain ⟨-, rfl⟩ := Prod.mk.inj (Option.some.inj h)
          exact exists_span_of_whole [] place remains (List.forall_mem_nil _)
    · rw [Bool.and_eq_true] at point
      obtain ⟨fraction, parts, inFraction⟩ := exists_span_of_readFraction [] rest
      rw [Option.some.inj h] at parts
      refine ⟨m :: fraction, by rw [List.cons_append, ← parts], ⟨m, rfl, .inr point.1⟩, ?_⟩
      exact List.forall_mem_cons.2 ⟨isPattern_point point.1, inFraction⟩

/-! ## Fractions -/

/-- A placeholder, a slash, and a placeholder or a digit, with any blanks around the slash. -/
inductive IsFraction : List Mark → Prop
  | of {first slash last : Mark} {before after : List Mark} (place : first.isPlaceholder)
      (blanksBefore : ∀ m ∈ before, m.isBlank) (isSlash : slash.shows (· == '/'))
      (blanksAfter : ∀ m ∈ after, m.isBlank) (ends : last.isPlaceholder ∨ last.shows isDigit) :
      IsFraction (first :: (before ++ slash :: (after ++ [last])))

theorem not_isBlank_of_shows {p : Char → Bool} {m : Mark} (h : m.shows p)
    (hp : ∀ c, p c → Text.isBlank c = false) : m.isBlank = false := by
  simp only [Mark.shows, Bool.and_eq_true] at h
  simp [Mark.isBlank, Mark.shows, hp _ h.2]

theorem not_isBlank_of_ends {m : Mark} (h : m.isPlaceholder ∨ m.shows isDigit) :
    m.isBlank = false := by
  rcases h with place | digit
  · have each : ['0', '#', '?'].any Text.isBlank = false := by decide
    refine not_isBlank_of_shows place fun c hc => Bool.eq_false_iff.2 ?_
    exact List.any_eq_false.1 each c (isDigitPlace_iff.1 hc)
  · exact not_isBlank_of_shows digit fun c hc => isBlank_of_isDigit hc

theorem beginsFraction_iff {ms : List Mark} :
    beginsFraction ms ↔ ∃ span after, ms = span ++ after ∧ IsFraction span := by
  constructor
  · intro h
    cases ms with
    | nil => cases h
    | cons first rest =>
      simp only [beginsFraction, Bool.and_eq_true] at h
      obtain ⟨place, h⟩ := h
      cases behind : rest.dropWhile Mark.isBlank with
      | nil => simp [behind] at h
      | cons slash tail =>
        simp only [behind, Bool.and_eq_true] at h
        obtain ⟨isSlash, h⟩ := h
        cases remains : tail.dropWhile Mark.isBlank with
        | nil => simp [remains] at h
        | cons last after =>
          have ends : last.isPlaceholder ∨ last.shows isDigit := by simpa [remains] using h
          have blanks (ms : List Mark) : ∀ m ∈ ms.takeWhile Mark.isBlank, m.isBlank :=
            fun m hm => List.mem_takeWhile_imp hm
          have whole : rest = rest.takeWhile Mark.isBlank ++ slash :: tail := by
            rw [← behind, List.takeWhile_append_dropWhile]
          have part : tail = tail.takeWhile Mark.isBlank ++ last :: after := by
            rw [← remains, List.takeWhile_append_dropWhile]
          have fraction := IsFraction.of place (blanks rest) isSlash (blanks tail) ends
          refine ⟨_, after, ?_, fraction⟩
          rw [List.cons_append, List.append_assoc, List.cons_append, List.append_assoc,
            List.singleton_append, ← part, ← whole]
  · rintro ⟨span, more, rfl, fraction⟩
    cases fraction with
    | @of first slash last before after place blanksBefore isSlash blanksAfter ends =>
      have slashStops : ∀ m ∈ (slash :: (after ++ last :: more)).head?, m.isBlank = false := by
        rintro m ⟨⟩
        have blank : Text.isBlank '/' = false := by decide
        exact not_isBlank_of_shows isSlash fun c hc => beq_iff_eq.1 hc ▸ blank
      have lastStops : ∀ m ∈ (last :: more).head?, m.isBlank = false := by
        rintro m ⟨⟩
        exact not_isBlank_of_ends ends
      have toSlash := dropWhile_run blanksBefore slashStops
      have toLast := dropWhile_run blanksAfter lastStops
      simp [beginsFraction, place, toSlash, isSlash, toLast, ends]

/-- **A fraction is found if there is one.** -/
theorem hasFraction_iff {ms : List Mark} :
    hasFraction ms ↔ ∃ before span after, ms = before ++ (span ++ after) ∧ IsFraction span := by
  induction ms with
  | nil =>
    constructor
    · intro h
      cases h
    · rintro ⟨before, span, after, parts, ⟨⟩⟩
      simp at parts
  | cons m ms ih =>
    rw [hasFraction, Bool.or_eq_true, ih, beginsFraction_iff]
    constructor
    · rintro (⟨span, after, parts, fraction⟩ | ⟨before, span, after, parts, fraction⟩)
      · exact ⟨[], span, after, parts, fraction⟩
      · exact ⟨m :: before, span, after, by rw [parts, List.cons_append], fraction⟩
    · rintro ⟨before, span, after, parts, fraction⟩
      cases before with
      | nil => exact .inl ⟨span, after, parts, fraction⟩
      | cons first before =>
        exact .inr ⟨before, span, after, (List.cons.inj parts).2, fraction⟩

theorem IsFraction.isSpan {span : List Mark} (h : IsFraction span) : IsSpan span := by
  cases h with
  | @of first slash last before after place blanksBefore isSlash blanksAfter ends =>
    have isLast : last.IsPattern := by
      rcases ends with isPlace | digit
      · exact isPattern_placeholder isPlace
      · exact isPattern_of_shows digit (by decide +kernel)
    refine ⟨⟨first, rfl, .inl place⟩, ?_⟩
    refine List.forall_mem_cons.2 ⟨isPattern_placeholder place, ?_⟩
    refine List.forall_mem_append.2 ⟨fun m hm => isPattern_blank (blanksBefore m hm), ?_⟩
    refine List.forall_mem_cons.2 ⟨isPattern_of_shows isSlash (by decide), ?_⟩
    refine List.forall_mem_append.2 ⟨fun m hm => isPattern_blank (blanksAfter m hm), ?_⟩
    exact List.forall_mem_singleton.2 isLast

theorem IsFraction.sublist {span : List Mark} (h : IsFraction span) :
    ∃ first slash last, [first, slash, last].Sublist span ∧ first.isPlaceholder ∧
      slash.shows (· == '/') := by
  cases h with
  | @of first slash last before after place blanksBefore isSlash blanksAfter ends =>
    refine ⟨first, slash, last, List.Sublist.cons_cons first ?_, place, isSlash⟩
    refine List.Sublist.trans ?_ (List.sublist_append_right before _)
    exact List.Sublist.cons_cons slash (List.sublist_append_right after [last])

/-! ## What is taken from a section -/

/-- The marks `span`, between those before and after it, are taken from a section: they are the
pattern with an exponent that is found first, or else a fraction, or else the digits that are found
first, with the commas that scale the number. -/
inductive Takes (sec : List Char) (before span after : List Mark) : Prop
  | exponent {pattern : ScientificPattern} (parts : marks sec = before ++ (span ++ after))
      (found : leftmost readScientific (marks sec) = some (before, pattern, after))
  | fraction (parts : marks sec = before ++ (span ++ after))
      (noExponent : leftmost readScientific (marks sec) = none) (found : IsFraction span)
  | digits {pattern : FixedPattern} (parts : marks sec = before ++ (span ++ after))
      (noExponent : leftmost readScientific (marks sec) = none)
      (noFraction : hasFraction (marks sec) = false)
      (found : leftmost readFixed (marks sec) = some (before, pattern, after))

section Takes

variable {sec : List Char} {before span after : List Mark}

theorem Takes.parts (h : Takes sec before span after) : marks sec = before ++ (span ++ after) := by
  cases h with
  | exponent parts => exact parts
  | fraction parts => exact parts
  | digits parts => exact parts

/-- What is found first stands between what is before and after it. -/
theorem exists_span_of_leftmost {α : Type} {p : List Mark → Option (α × List Mark)} {pattern : α}
    {ms : List Mark} (hp : ∀ ms after pattern, p ms = some (pattern, after) →
      ∃ span, ms = span ++ after ∧ IsSpan span)
    (h : leftmost p ms = some (before, pattern, after)) :
    ∃ span, ms = before ++ (span ++ after) ∧ IsSpan span := by
  obtain ⟨tail, rfl, read⟩ := leftmost_eq_some h
  obtain ⟨span, rfl, isSpan⟩ := hp tail after pattern read
  exact ⟨span, rfl, isSpan⟩

/-- **A span is visible and begins with a placeholder or a point.** -/
theorem isSpan_of_takes (h : Takes sec before span after) : IsSpan span := by
  have same {found : List Mark} (parts : marks sec = before ++ (span ++ after))
      (found_parts : marks sec = before ++ (found ++ after)) : found = span := by
    rw [parts] at found_parts
    exact List.append_cancel_right (List.append_cancel_left found_parts).symm
  cases h with
  | exponent parts found =>
    obtain ⟨span', parts', isSpan⟩ :=
      exists_span_of_leftmost (fun _ _ _ => exists_span_of_readScientific) found
    exact same parts parts' ▸ isSpan
  | fraction parts noExponent found => exact found.isSpan
  | digits parts noExponent noFraction found =>
    obtain ⟨span', parts', isSpan⟩ :=
      exists_span_of_leftmost (fun _ _ _ => exists_span_of_readFixed) found
    exact same parts parts' ▸ isSpan

/-- **A section from which nothing is taken is literal text,** unless it stands for the general
format. -/
theorem formatSection_of_nothing_taken (h : ∀ before span after, ¬ Takes sec before span after)
    (value : Number) (negative : Bool) :
    formatSection sec value negative =
      if isBlankText sec || isGeneral (trim sec) then generalText value
        else .ok (literalText sec) := by
  have noExponent : leftmost readScientific (marks sec) = none := by
    cases found : leftmost readScientific (marks sec) with
    | none => rfl
    | some result =>
      obtain ⟨before, pattern, after⟩ := result
      obtain ⟨span, parts, -⟩ :=
        exists_span_of_leftmost (fun _ _ _ => exists_span_of_readScientific) found
      exact absurd (.exponent parts found) (h before span after)
  have noFraction : hasFraction (marks sec) = false := by
    rw [← Bool.not_eq_true, hasFraction_iff]
    rintro ⟨before, span, after, parts, fraction⟩
    exact h before span after (.fraction parts noExponent fraction)
  have noDigits : leftmost readFixed (marks sec) = none := by
    cases found : leftmost readFixed (marks sec) with
    | none => rfl
    | some result =>
      obtain ⟨before, pattern, after⟩ := result
      obtain ⟨span, parts, -⟩ :=
        exists_span_of_leftmost (fun _ _ _ => exists_span_of_readFixed) found
      exact absurd (.digits parts noExponent noFraction found) (h before span after)
  by_cases general : (isBlankText sec || isGeneral (trim sec)) = true
  · simp [formatSection, general]
  · simp [formatSection, general, noExponent, noFraction, noDigits]

end Takes

/-! ## Positions -/

theorem exists_lexeme_at {ls : List Lexeme} {i : Nat} (h : i < (written ls).length) :
    ∃ front l back, ls = front ++ l :: back ∧ (written front).length ≤ i ∧
      i < (written front).length + l.code.length := by
  induction ls generalizing i with
  | nil => simp at h
  | cons l ls ih =>
    by_cases inFirst : i < l.code.length
    · exact ⟨[], l, ls, rfl, by simp, by simpa using inFirst⟩
    · rw [written_cons, List.length_append] at h
      have inRest : i - l.code.length < (written ls).length := by omega
      obtain ⟨front, l', back, rfl, low, high⟩ := ih inRest
      refine ⟨l :: front, l', back, rfl, ?_, ?_⟩
      · rw [written_cons, List.length_append]
        omega
      · rw [written_cons, List.length_append]
        omega

/-- **Behind steady lexemes the marks are those of the rest.** -/
theorem marks_behind {sec : List Char} {ls ls' : List Lexeme}
    (read : lexemes literalTaking sec = ls ++ ls') (steady : ∀ l ∈ ls, l.IsSteady) (k : Nat) :
    (marks sec)[(written ls).length + k]? = (marks (written ls'))[k]? := by
  let front := (ls.flatMap Lexeme.parts).flatMap Lexeme.marks
  have split : marks sec = front ++ marks (written ls') := by
    rw [marks_eq, lexemes_of_steady read steady, List.flatMap_append, ← marks_eq]
  have length : front.length = (written ls).length := by
    have chars_front : chars front = written ls := by simp [front]
    rw [← chars_front, chars, List.length_map]
  rw [split, ← length, List.getElem?_append_right (Nat.le_add_right _ _), Nat.add_sub_cancel_left]

theorem char_of_getElem?_marks {sec : List Char} {i : Nat} {m : Mark}
    (h : (marks sec)[i]? = some m) :
    sec[i]? = some m.char := by
  have same : (chars (marks sec))[i]? = some m.char := by simp [chars, h]
  rwa [marks, chars_markFrom] at same

section Takes

variable {sec : List Char} {before span after : List Mark}

theorem exists_mark_at (h : Takes sec before span after) {i : Nat} (low : before.length ≤ i)
    (high : i < before.length + span.length) :
    ∃ m ∈ span, (marks sec)[i]? = some m ∧ (i = before.length → m ∈ span.head?) := by
  have index : i - before.length < span.length := by omega
  refine ⟨span[i - before.length], List.getElem_mem index, ?_, ?_⟩
  · rw [h.parts, List.getElem?_append_right low, List.getElem?_append_left index,
      List.getElem?_eq_getElem index]
  · rintro rfl
    cases span with
    | nil => simp at index
    | cons m span => simp

/-- No character that takes another is taken from the section. -/
theorem not_literalTaking_at (h : Takes sec before span after) {i : Nat} (low : before.length ≤ i)
    (high : i < before.length + span.length) {c : Char} (at_i : sec[i]? = some c) :
    c ∉ literalTaking := by
  obtain ⟨m, inSpan, found, -⟩ := exists_mark_at h low high
  have same : m.char = c := Option.some.inj ((char_of_getElem?_marks found).symm.trans at_i)
  obtain ⟨-, ordinary⟩ := (isSpan_of_takes h).pattern m inSpan
  rw [← same]
  exact fun inside => ordinary (List.mem_cons_of_mem _ inside)

/-- **Of a pair behind steady lexemes only the first character of a span can be taken,** and not one
behind a backslash. -/
theorem pair_taken (h : Takes sec before span after) {ls ls' : List Lexeme} {mark c : Char}
    (read : lexemes literalTaking sec = ls ++ .pair mark c :: ls') (steady : ∀ l ∈ ls, l.IsSteady)
    {i : Nat} (low : before.length ≤ i) (high : i < before.length + span.length)
    (inPair : (written ls).length ≤ i ∧ i < (written ls).length + 2) :
    i = before.length ∧ mark ≠ '\\' ∧ sec[i]? = some c := by
  obtain ⟨parts, behind⟩ := lexemes_eq_append read
  obtain ⟨-, -, -, takes, -⟩ := lexemes_eq_cons behind
  have at_mark : sec[(written ls).length]? = some mark := by simp [parts, Lexeme.code]
  -- the mark itself is not taken, so the span begins behind it
  have second : i = (written ls).length + 1 := by
    by_contra other
    have first : i = (written ls).length := by omega
    exact not_literalTaking_at h low high (first ▸ at_mark) takes
  have first : i = before.length := by
    by_contra other
    have inside : before.length ≤ (written ls).length := by omega
    exact not_literalTaking_at h inside (by omega) at_mark takes
  refine ⟨first, ?_, by simp [parts, second, Lexeme.code]⟩
  rintro rfl
  obtain ⟨m, inSpan, found, atFirst⟩ := exists_mark_at h low high
  obtain ⟨visible, -⟩ := (isSpan_of_takes h).pattern m inSpan
  obtain ⟨m', isFirst, place⟩ := (isSpan_of_takes h).first
  obtain rfl : m = m' := Option.some.inj ((atFirst first).symm.trans isFirst)
  rw [second, marks_behind read steady] at found
  -- a backslash hides every character but a line feed, and no span begins with that
  by_cases feed : c = '\n'
  · have same : m = ⟨'\n', false⟩ := by
      simpa [marks, markFrom, Lexeme.code, feed, eq_comm] using found
    subst same
    revert place
    decide
  · have same : m = ⟨c, true⟩ := by
      simpa [marks, markFrom, Lexeme.code, feed, eq_comm] using found
    rw [same] at visible
    cases visible

theorem not_quoted_taken (h : Takes sec before span after) {ls ls' : List Lexeme}
    {content : List Char} {closed : '"' ∉ content}
    (read : lexemes literalTaking sec = ls ++ .quoted content closed :: ls')
    (steady : ∀ l ∈ ls, l.IsSteady) {i : Nat} (low : before.length ≤ i)
    (high : i < before.length + span.length) :
    ¬ ((written ls).length ≤ i ∧
      i < (written ls).length + (Lexeme.quoted content closed).code.length) := by
  rintro ⟨begins, ends⟩
  obtain ⟨k, rfl⟩ := Nat.exists_eq_add_of_le begins
  obtain ⟨m, inSpan, found, -⟩ := exists_mark_at h low high
  obtain ⟨visible, -⟩ := (isSpan_of_takes h).pattern m inSpan
  have hidden : marks (written (.quoted content closed :: ls')) =
      marked true (Lexeme.quoted content closed).code ++ marks (written ls') :=
    markFrom_code (.quoted content closed) (written ls')
  have within : k < (marked true (Lexeme.quoted content closed).code).length := by
    simp only [marked, List.length_map]
    omega
  rw [marks_behind read steady, hidden, List.getElem?_append_left within] at found
  obtain ⟨-, isHidden⟩ := mem_marked.1 (List.mem_of_getElem? found)
  rw [isHidden] at visible
  cases visible

end Takes

/-! ## Main result -/

/-- A lexeme of literal text that the search for placeholders reads in the same way: its quotes are
closed, and an underscore or an asterisk takes nothing that the search would look for. -/
def Lexeme.IsHarmless : Lexeme → Prop
  | unclosed _ _ => False
  | pair mark taken => mark = '\\' ∨ taken ∉ ['"', '\\', '0', '#', '?', '.']
  | _ => True

instance : DecidablePred Lexeme.IsHarmless
  | .quoted _ _ => .isTrue trivial
  | .unclosed _ _ => .isFalse id
  | .pair mark taken =>
    inferInstanceAs (Decidable (mark = '\\' ∨ taken ∉ ['"', '\\', '0', '#', '?', '.']))
  | .bare _ => .isTrue trivial

theorem Lexeme.IsHarmless.isSteady {l : Lexeme} (h : l.IsHarmless) : l.IsSteady := by
  cases l with
  | quoted => trivial
  | unclosed => exact h.elim
  | pair mark taken =>
    refine h.imp_right fun other => ?_
    simp only [List.mem_cons, not_or] at other ⊢
    exact ⟨other.1, other.2.1, List.not_mem_nil⟩
  | bare => trivial

section Takes

variable {sec : List Char} {before span after : List Mark} (h : Takes sec before span after)
  {ls ls' : List Lexeme} {l : Lexeme} (read : lexemes literalTaking sec = ls ++ l :: ls')
  {i : Nat} (low : before.length ≤ i) (high : i < before.length + span.length)
  (inLexeme : (written ls).length ≤ i ∧ i < (written ls).length + l.code.length)

include h read low high inLexeme

/-- A lexeme that is taken from stands by itself, or begins the span behind an underscore or an
asterisk, unless the two readers have parted before it. -/
theorem kinds_of_taken :
    (∃ c, l = .bare c) ∨ (i = before.length ∧ ∃ mark ∈ ['_', '*'], ∃ c, l = .pair mark c) ∨
      l.IsUnclosed ∨ ∃ x ∈ ls, ¬ x.IsSteady := by
  by_cases steady : ∀ x ∈ ls, x.IsSteady
  · cases l with
    | bare c => exact .inl ⟨c, rfl⟩
    | unclosed => exact .inr (.inr (.inl trivial))
    | quoted => exact absurd inLexeme (not_quoted_taken h read steady low high)
    | pair mark c =>
      obtain ⟨first, other, -⟩ := pair_taken h read steady low high inLexeme
      obtain ⟨-, -, -, takes, -⟩ := lexemes_eq_cons (lexemes_eq_append read).2
      exact .inr (.inl ⟨first, mark, List.mem_of_ne_of_mem other takes, c, rfl⟩)
  · push Not at steady
    exact .inr (.inr (.inr steady))

/-- A span begins with a placeholder or a point, and a harmless pair takes none. -/
theorem bare_of_harmless (steady : ∀ x ∈ ls, x.IsSteady) (harmless : l.IsHarmless) :
    ∃ c, l = .bare c := by
  obtain bare | ⟨first, mark, -, c, rfl⟩ | unclosed | ⟨x, hx, unsteady⟩ :=
    kinds_of_taken h read low high inLexeme
  · exact bare
  · obtain ⟨-, other, at_c⟩ := pair_taken h read steady low high inLexeme
    obtain ⟨m, inSpan, found, atFirst⟩ := exists_mark_at h low high
    obtain ⟨m', isFirst, place⟩ := (isSpan_of_takes h).first
    obtain rfl : m = m' := Option.some.inj ((atFirst first).symm.trans isFirst)
    have same : m.char = c := Option.some.inj ((char_of_getElem?_marks found).symm.trans at_c)
    have sought := mem_of_isPlaceholder_or_isPoint place
    rw [same] at sought
    rcases harmless with backslash | ordinary
    · exact absurd backslash other
    · exact absurd (List.mem_cons_of_mem _ (List.mem_cons_of_mem _ sought)) ordinary
  · cases l with
    | unclosed => exact harmless.elim
    | quoted | pair | bare => exact unclosed.elim
  · exact absurd (steady x hx) unsteady

end Takes

/-- **What is taken is ordinary text, as literal text reads it.** Each character that is taken from
a section belongs to a lexeme of literal text, and that is a character by itself, with three
exceptions: the span may begin with the character behind an underscore or an asterisk, it may lie
behind a quote that is never closed, and it may lie behind an underscore or an asterisk that takes a
quote or a backslash. There is no exception if all lexemes are harmless. -/
theorem takes_bare {sec : List Char} {before span after : List Mark}
    (h : Takes sec before span after)
    {i : Nat} (low : before.length ≤ i) (high : i < before.length + span.length) :
    ∃ ls l ls', lexemes literalTaking sec = ls ++ l :: ls' ∧
      (written ls).length ≤ i ∧ i < (written ls).length + l.code.length ∧
      ((∃ c, l = .bare c) ∨
        (i = before.length ∧ ∃ mark ∈ ['_', '*'], ∃ c, l = .pair mark c) ∨
        l.IsUnclosed ∨ ∃ x ∈ ls, ¬ x.IsSteady) ∧
      ((∀ x ∈ lexemes literalTaking sec, x.IsHarmless) → ∃ c, l = .bare c) := by
  have inCode : i < (written (lexemes literalTaking sec)).length := by
    obtain ⟨m, inSpan, found, atFirst⟩ := exists_mark_at h low high
    rw [written_lexemes]
    exact (List.getElem?_eq_some_iff.1 (char_of_getElem?_marks found)).1
  obtain ⟨ls, l, ls', read, begins, ends⟩ := exists_lexeme_at inCode
  have kinds := kinds_of_taken h read low high ⟨begins, ends⟩
  refine ⟨ls, l, ls', read, begins, ends, kinds, ?_⟩
  intro harmless
  rw [read] at harmless
  have steady : ∀ x ∈ ls, x.IsSteady :=
    fun x hx => (harmless x (List.mem_append_left _ hx)).isSteady
  exact bare_of_harmless h read low high ⟨begins, ends⟩ steady (harmless l (by simp))

/-- The digits of an accounting format stand between padding as wide as brackets. -/
theorem takes_bare_accounting :
    let sec := "_(* #,##0.00_)".toList
    Takes sec (marked false "_(* ".toList) (marked false "#,##0.00".toList)
        (marked false "_)".toList) ∧
      (∀ l ∈ lexemes literalTaking sec, l.IsHarmless) ∧
      ∀ i, 4 ≤ i → i < 12 → ∃ ls c ls', lexemes literalTaking sec = ls ++ .bare c :: ls' ∧
        (written ls).length = i := by
  intro sec
  have taken : Takes sec (marked false "_(* ".toList) (marked false "#,##0.00".toList)
      (marked false "_)".toList) := by
    have found : leftmost readFixed (marks sec) =
        some (marked false "_(* ".toList, ⟨true, 2, 0⟩, marked false "_)".toList) := by
      decide +kernel
    exact .digits (by decide +kernel) (by decide +kernel) (by decide +kernel) found
  have harmless : ∀ l ∈ lexemes literalTaking sec, l.IsHarmless := by decide +kernel
  refine ⟨taken, harmless, fun i low high => ?_⟩
  obtain ⟨ls, l, ls', read, begins, ends, -, bare⟩ := takes_bare taken low high
  obtain ⟨c, rfl⟩ := bare harmless
  simp only [Lexeme.code, List.length_singleton] at ends
  exact ⟨ls, c, ls', read, by omega⟩

/-- A placeholder that literal text would leave a blank for is taken for a digit. -/
theorem exists_padding_taken :
    ∃ sec : List Char, Takes sec (marked false ['_']) (marked false ['0', '0']) [] ∧
      lexemes literalTaking sec = [.pair '_' '0', .bare '0'] ∧
      formatNumber (.integer 5) sec = .ok "_5".toList := by
  refine ⟨"_00".toList, ?_, by decide +kernel, by decide +kernel⟩
  have found : leftmost readFixed (marks "_00".toList) =
      some (marked false ['_'], ⟨false, 0, 0⟩, []) := by
    decide +kernel
  exact .digits (by decide +kernel) (by decide +kernel) (by decide +kernel) found

end SlideMerge.Format
