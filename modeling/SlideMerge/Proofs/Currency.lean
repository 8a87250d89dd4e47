import SlideMerge.Proofs.Layout
import SlideMerge.Proofs.Search

/-!
# Currency symbols

A number code may begin with a currency symbol and its locale in brackets. The symbol takes the
place of the brackets, and is then read as a part of the code; the same symbol between quotes is
read as text.

**The same search.** A body is found behind any marks that show no placeholder and do not end with a
point, and then prints what it prints there (`formatSection_body`).

**Text that is lost.** Literal text is no longer than its code (`length_literalText_le`), and a
plain symbol is lost in part if an underscore or an asterisk takes a character
(`literalText_eq_self_iff`).

**A number without digits.** An undefined number is printed as a word of three letters under every
pattern, so the length of what is printed tells how much of the symbol was read as a pattern
(`exists_found_of_formatSection_nan`).

Main result: `formatNumber_currency_iff`.
-/

namespace SlideMerge.Format

open Numeric Text

/-! ## Codes with a symbol -/

/-- A currency symbol and its locale in brackets. -/
def currencyPart (symbol locale : List Char) : List Char :=
  '[' :: '$' :: (symbol ++ '-' :: (locale ++ [']']))

def quotedPart (symbol : List Char) : List Char :=
  '"' :: (symbol ++ ['"'])

/-! ## Brackets and sections -/

theorem stripFrom_closed {part : List Char} (h : ']' ∉ part) (inner rest : List Char) :
    stripFrom (some inner) (part ++ ']' :: rest) =
      bracketSymbol (inner ++ part) ++ stripFrom none rest := by
  induction part generalizing inner with
  | nil => simp [stripFrom]
  | cons c part ih =>
    simp only [List.mem_cons, not_or] at h
    rw [List.cons_append, stripFrom, if_neg (Ne.symm h.1), ih h.2]
    simp

/-- Without a closing bracket nothing is dropped. -/
theorem stripFrom_unclosed {sec : List Char} (h : ']' ∉ sec) (inner : Option (List Char)) :
    stripFrom inner sec = inner.elim [] ('[' :: ·) ++ sec := by
  induction sec generalizing inner with
  | nil => cases inner <;> simp [stripFrom]
  | cons c sec ih =>
    simp only [List.mem_cons, not_or] at h
    cases inner with
    | none =>
      rw [stripFrom]
      split_ifs with bracket
      · simp [ih h.2, bracket]
      · simp [ih h.2]
    | some inner =>
      rw [stripFrom, if_neg (Ne.symm h.1), ih h.2]
      simp

theorem DigitBody.stripBrackets_append_code (b : DigitBody) {part : List Char} (h : ']' ∉ part) :
    stripBrackets (part ++ b.code) = part ++ b.code := by
  have body : ∀ c ∈ b.code, c ≠ ']' := DigitBody.forall_mem_code (by decide)
  have none : ']' ∉ part ++ b.code := by
    simpa [h] using fun inside => body ']' inside rfl
  exact stripFrom_unclosed none Option.none

/-- **Of a currency symbol in brackets the symbol is kept.** -/
theorem stripBrackets_currencyPart {symbol locale : List Char} (hs : ∀ c ∈ symbol, c ∉ [']', '-'])
    (hl : ']' ∉ locale) (b : DigitBody) :
    stripBrackets (currencyPart symbol locale ++ b.code) = symbol ++ b.code := by
  have inside : ']' ∉ '$' :: (symbol ++ '-' :: locale) := by
    simpa [hl] using fun h => hs ']' h (by decide)
  have written : currencyPart symbol locale ++ b.code =
      '[' :: ('$' :: (symbol ++ '-' :: locale) ++ ']' :: b.code) := by
    simp [currencyPart]
  have kept : (symbol ++ '-' :: locale).takeWhile (· != '-') = symbol := by
    refine takeWhile_run (fun c hc => ?_) (by simp)
    have other := hs c hc
    simp only [List.mem_cons, List.not_mem_nil, or_false, not_or] at other
    simpa using other.2
  have body : stripFrom none b.code = b.code := b.stripBrackets_append_code List.not_mem_nil
  rw [written, stripBrackets, stripFrom, if_pos rfl, stripFrom_closed inside, body]
  simp [bracketSymbol, kept]

/-- The first section does not depend on what stands behind a separator. -/
theorem splitFrom_append_of_cut {quoted escaped : Bool} {part : List Char}
    (h : (splitFrom quoted escaped part).2 ≠ []) (rest : List Char) :
    (splitFrom quoted escaped (part ++ rest)).1 = (splitFrom quoted escaped part).1 := by
  induction part generalizing quoted escaped with
  | nil => exact absurd rfl h
  | cons c part ih =>
    rw [splitFrom] at h
    rw [List.cons_append, splitFrom, splitFrom]
    split_ifs at h ⊢
    · simp [consFirst, ih h]
    · simp [consFirst, ih h]
    · simp [consFirst, ih h]
    · rfl
    · simp [consFirst, ih h]

theorem splitFrom_of_not_mem {rest : List Char} (h : ';' ∉ rest) (quoted escaped : Bool) :
    splitFrom quoted escaped rest = (rest, []) := by
  induction rest generalizing quoted escaped with
  | nil => rfl
  | cons c rest ih =>
    simp only [List.mem_cons, not_or] at h
    have other : ¬ (c = ';' ∧ quoted = false) := fun separator => h.1 separator.1.symm
    rw [splitFrom, if_neg other]
    simp only [ih h.2, consFirst, ite_self]

/-- A part without a separator is in one section with what stands behind it. -/
theorem splitFrom_append_of_uncut {quoted escaped : Bool} {part rest : List Char}
    (h : (splitFrom quoted escaped part).2 = []) (hr : ';' ∉ rest) :
    splitFrom quoted escaped (part ++ rest) = (part ++ rest, []) := by
  induction part generalizing quoted escaped with
  | nil => exact splitFrom_of_not_mem hr quoted escaped
  | cons c part ih =>
    rw [splitFrom] at h
    rw [List.cons_append, splitFrom]
    split_ifs at h ⊢
    · rw [ih h, consFirst]
    · rw [ih h, consFirst]
    · rw [ih h, consFirst]
    · rw [ih h, consFirst]

/-- No semicolon of the part separates sections. -/
def IsUncut (part : List Char) : Prop :=
  (sections part).2 = []

instance : DecidablePred IsUncut :=
  fun part => inferInstanceAs (Decidable ((sections part).2 = []))

/-- **A code that begins with an uncut part has one section.** -/
theorem IsUncut.formatNumber_append {part : List Char} (h : IsUncut part) (b : DigitBody)
    (value : Number) :
    formatNumber value (part ++ b.code) =
      formatSection (stripBrackets (part ++ b.code)) value value.isNegative := by
  have plain : ∀ c ∈ b.code, c ≠ ';' := DigitBody.forall_mem_code (by decide)
  have noSeparator : ';' ∉ b.code := fun inside => plain ';' inside rfl
  refine formatNumber_single ?_ value
  rw [splitSections, sections, splitFrom_append_of_uncut h noSeparator]

theorem isUncut_quotedPart {symbol : List Char} (h : ∀ c ∈ symbol, c ∉ ['"', '\\']) :
    IsUncut (quotedPart symbol) := by
  rw [IsUncut, sections, quotedPart, splitFrom_quoted h]
  rfl

/-! ## Bodies behind other marks -/

theorem hasFraction_body {b : DigitBody} {before : List Mark}
    (hb : ∀ m ∈ before, m.isPlaceholder = false) :
    hasFraction (before ++ marked false b.code) = false := by
  rw [← Bool.not_eq_true, hasFraction_iff]
  rintro ⟨passed, span, tail, parts, fraction⟩
  obtain ⟨first, slash, last, inside, place, isSlash⟩ := fraction.sublist
  have three : [first, slash, last].Sublist (before ++ (marked false b.code ++ [])) := by
    rw [List.append_nil, parts]
    exact inside.trans
      ((List.sublist_append_left span tail).trans (List.sublist_append_right passed _))
  have inBody : slash ∈ marked false b.code := by
    refine mem_middle_of_sublist three ?_ List.not_mem_nil
    intro passed
    simp [hb first passed] at place
  obtain ⟨hc, -⟩ := mem_marked.1 inBody
  have other : ∀ c ∈ b.code, (c == '/') = false := DigitBody.forall_mem_code (by decide)
  simp [Mark.shows, other slash.char hc] at isSlash

/-- **A body is found behind marks that show no placeholder,** and prints its digits behind the
literal text of the marks. A point right before a whole part would belong to the body. -/
theorem formatSection_body {sec : List Char} {before : List Mark} {b : DigitBody}
    (hm : marks sec = before ++ marked false b.code) (hb : ∀ m ∈ before, m.isPlaceholder = false)
    (starts : b.whole ≠ [] → ∀ m ∈ before.getLast?, m.isPoint = false) (value : Number) :
    formatSection sec value value.isNegative =
      surround (literalText (chars before)) [] <$>
        formatNumber (if '%' ∈ literalText (chars before) then value.timesHundred else value)
          b.code := by
  have whole : sec = chars before ++ b.code := by
    rw [← chars_markFrom false sec, ← marks, hm, chars, List.map_append]
    exact congrArg (chars before ++ ·) (chars_marked false b.code)
  have inCode : ∀ c ∈ b.code, c ∈ sec := by
    intro c hc
    rw [whole]
    exact List.mem_append_right _ hc
  have ends : b.EndsBefore [] := by simp [DigitBody.EndsBefore]
  have noPoint : ∀ m ∈ before.getLast?, m.isPoint →
      ∀ d ∈ (marked false b.code ++ []).head?, d.isPlaceholder = false := by
    intro m last point
    have empty : b.whole = [] := by
      by_contra whole
      simp [starts whole m last] at point
    exact DigitBody.isPlaceholder_of_mem_head? empty
  have noExponent := leftmost_readScientific_body hb (b := b) (List.forall_mem_nil _)
  have fixed := leftmost_readFixed_body hb ends noPoint
  have printed := formatFixed_surround b.pattern (chars before) [] value.isNegative value
  have sign : (if '%' ∈ literalText (chars before) then value.timesHundred else value).isNegative =
      value.isNegative := by
    split_ifs <;> simp
  rw [List.append_nil] at noExponent fixed
  simp only [literalText_nil, List.not_mem_nil, or_false] at printed
  rw [DigitBody.formatNumber_code, sign, ← printed]
  simp only [formatSection, DigitBody.not_general inCode, hm, noExponent, hasFraction_body hb,
    fixed, Bool.false_eq_true, if_false]
  rfl

theorem marks_append_code {part : List Char} {before : List Mark}
    (h : ∀ rest, markFrom false (part ++ rest) = before ++ markFrom false rest) (b : DigitBody) :
    marks (part ++ b.code) = before ++ marked false b.code := by
  have plain : ∀ c ∈ b.code, c ∉ ['"', '\\'] := DigitBody.forall_mem_code (by decide)
  have body := markFrom_plain plain []
  rw [List.append_nil] at body
  rw [marks, h, body]
  simp [markFrom]

/-! ## Literal text that loses nothing -/

theorem length_literalFrom_le (quoted : Bool) (cs : List Char) :
    (literalFrom quoted cs).length ≤ cs.length := by
  fun_induction literalFrom quoted cs with
  | case1 => simp
  | case2 _ ih | case3 _ _ _ ih | case4 _ ih | case5 _ _ ih | case6 _ _ ih | case7 _ _ ih
  | case8 _ _ _ _ _ _ ih =>
    simp only [List.length_cons]
    omega

/-- **Literal text as long as its code is the code.** -/
theorem literalFrom_eq_self {quoted : Bool} {cs : List Char}
    (h : cs.length ≤ (literalFrom quoted cs).length) : literalFrom quoted cs = cs := by
  fun_induction literalFrom quoted cs with
  | case1 => rfl
  | case3 _ _ _ ih | case8 _ _ _ _ _ _ ih =>
    rw [ih (by simpa using h)]
  | case2 rest | case4 rest | case5 _ rest | case6 _ rest | case7 _ rest =>
    have shorter := length_literalFrom_le false rest
    have shorter' := length_literalFrom_le true rest
    simp only [List.length_cons] at h
    omega

theorem length_literalText_le (cs : List Char) : (literalText cs).length ≤ cs.length :=
  length_literalFrom_le false cs

theorem literalText_eq_self {cs : List Char} (h : cs.length ≤ (literalText cs).length) :
    literalText cs = cs :=
  literalFrom_eq_self h

theorem literalText_ne_of_taken {mark : Char} (h : mark ∈ ['_', '*']) (taken : Char)
    (cs : List Char) :
    literalText (mark :: taken :: cs) ≠ mark :: taken :: cs := by
  intro same
  have rest := length_literalText_le cs
  have longer := congrArg List.length same
  simp only [literalText] at rest longer
  simp only [List.mem_cons, List.not_mem_nil, or_false] at h
  rcases h with rfl | rfl
  · simp only [literalFrom, List.length_cons] at longer
    omega
  · simp only [literalFrom, List.length_cons] at longer
    omega

/-- **A plain text is literal if nothing is taken in it**: no underscore or asterisk has a character
behind it. -/
theorem literalText_eq_self_iff {cs : List Char} (h : ∀ c ∈ cs, c ∉ ['"', '\\']) :
    literalText cs = cs ↔ ∀ c ∈ cs.dropLast, c ∉ ['_', '*'] := by
  induction cs with
  | nil => simp
  | cons c cs ih =>
    obtain ⟨plain, others⟩ := List.forall_mem_cons.1 h
    simp only [List.mem_cons, List.not_mem_nil, or_false, not_or] at plain
    cases cs with
    | nil => simp [literalText, literalFrom, plain]
    | cons d cs =>
      rw [List.dropLast_cons_cons, List.forall_mem_cons, ← ih others]
      by_cases takes : c ∈ ['_', '*']
      · simp [takes, literalText_ne_of_taken takes]
      · have ordinary := takes
        simp only [List.mem_cons, List.not_mem_nil, or_false, not_or] at ordinary
        have kept : literalText (c :: d :: cs) = c :: literalText (d :: cs) :=
          literalFrom.eq_7 c (d :: cs) plain.1 (fun _ _ h _ => plain.2 h)
            (fun _ _ h _ => ordinary.1 h) fun _ _ h _ => ordinary.2 h
        simp [takes, kept]

/-! ## A number without digits -/

/-- The body `0.0`. -/
def tenthBody : DigitBody :=
  { zeroBody with
    fraction := some ['0']
    fraction_places := by
      rintro digits ⟨⟩
      exact List.forall_mem_singleton.2 rfl
    nonempty := fun _ => ⟨'0', [], rfl⟩ }

def undefinedNumber : Number :=
  .real .nan

theorem text_nan : Double.nan.text = ['n', 'a', 'n'] := by
  decide

theorem timesHundred_undefined : undefinedNumber.timesHundred = undefinedNumber := by
  decide +kernel

/-- **An undefined number is printed as a word,** whatever the pattern. -/
theorem formatFixed_undefined {pattern : FixedPattern} {before after : List Char} {text : List Char}
    (h : formatFixed pattern before after false undefinedNumber = .ok text) :
    text = literalText before ++ Double.nan.text ++ literalText after := by
  rw [formatFixed_eq, timesHundred_undefined, ite_self] at h
  obtain ⟨digits, printed, rfl⟩ := map_eq_ok.1 h
  obtain ⟨x, found, rfl⟩ := map_eq_ok.1 printed
  obtain ⟨scaled, divided, magnitude⟩ := bind_eq_ok.1 found
  have undefined : scaled = undefinedNumber := by
    split_ifs at divided with unscaled
    · exact (Except.ok.inj divided).symm
    · obtain ⟨divisor, -, quotient⟩ := bind_eq_ok.1 divided
      exact (Except.ok.inj quotient).symm
  subst undefined
  obtain rfl : x = .nan := (Except.ok.inj magnitude).symm
  rfl

theorem formatScientific_undefined {pattern : ScientificPattern} {before after text : List Char}
    (h : formatScientific pattern before after undefinedNumber = .ok text) :
    text = Double.nan.text := by
  rw [formatScientific] at h
  by_cases engineering : 1 < pattern.wholeCount
  · rw [if_pos engineering] at h
    exact (Except.ok.inj h).symm
  · rw [if_neg engineering] at h
    obtain ⟨x, magnitude, printed⟩ := bind_eq_ok.1 h
    obtain rfl : x = .nan := (Except.ok.inj magnitude).symm
    cases printed

/-- What a section prints of an undefined number: the word alone, or literal text, or the word in
place of a pattern that was found. -/
theorem formatSection_undefined {sec text : List Char}
    (h : formatSection sec undefinedNumber false = .ok text) :
    text = Double.nan.text ∨ text = literalText sec ∨
      ∃ before pattern after, leftmost readFixed (marks sec) = some (before, pattern, after) ∧
        text = literalText (chars before) ++ Double.nan.text ++ literalText (chars after) := by
  unfold formatSection at h
  split_ifs at h with general
  · exact .inl (Except.ok.inj h).symm
  dsimp only at h
  split at h
  · exact .inl (formatScientific_undefined h)
  split_ifs at h with fraction
  · exact .inl (Except.ok.inj h).symm
  split at h
  · next before pattern after found =>
    exact .inr (.inr ⟨before, pattern, after, found, formatFixed_undefined h⟩)
  · exact .inr (.inl (Except.ok.inj h).symm)

/-- If the word stands behind a text, where a placeholder stands in the code, then a pattern that it
replaces begins there, since no pattern begins with the first letter of the word. -/
theorem eq_of_word_behind {symbol before span after : List Char} {c : Char}
    (code : symbol ++ ['0'] = before ++ c :: (span ++ after)) (other : c ≠ 'n')
    (printed : symbol ++ Double.nan.text =
      literalText before ++ Double.nan.text ++ literalText after) :
    before = symbol ∧ after = [] ∧ literalText symbol = symbol := by
  rw [text_nan, List.append_assoc] at printed
  -- the text of both parts is as long as they are, and the pattern is a single character
  have read := congrArg List.length code
  have shown := congrArg List.length printed
  have shorter := length_literalText_le before
  have shorter' := length_literalText_le after
  simp only [List.length_append, List.length_cons, List.length_nil] at read shown
  have literal : literalText before = before := literalText_eq_self (by omega)
  have begins : before <+: symbol := by
    have inCode : before <+: symbol ++ ['0'] := ⟨_, code.symm⟩
    exact List.prefix_of_prefix_length_le inCode (List.prefix_append symbol ['0']) (by omega)
  rw [literal] at printed
  obtain ⟨rest, rfl⟩ := begins
  rw [List.append_assoc] at code printed
  have behind := List.append_cancel_left code
  have behind' := List.append_cancel_left printed
  cases rest with
  | cons d rest =>
    have isFound : d = c := (List.cons.inj behind).1
    have isWord : d = 'n' := (List.cons.inj behind').1
    exact absurd (isFound.symm.trans isWord) other
  | nil =>
    have tail := (List.cons.inj behind).2
    exact ⟨by simp, (List.append_eq_nil_iff.1 tail.symm).2, by simpa using literal⟩

/-- **The word tells where the pattern was found.** If a plain text before a single placeholder is
printed before the word for an undefined number, the search has passed over the text, and the text
is literal. -/
theorem found_of_formatSection_undefined {symbol : List Char}
    (plain : ∀ c ∈ symbol, c ∉ ['"', '\\'])
    (h : formatSection (symbol ++ ['0']) undefinedNumber false = .ok (symbol ++ Double.nan.text)) :
    symbol = [] ∨ literalText symbol = symbol ∧
      ∃ pattern, leftmost readFixed (marked false symbol ++ [⟨'0', false⟩]) =
        some (marked false symbol, pattern, []) := by
  have whole : marks (symbol ++ ['0']) = marked false symbol ++ [⟨'0', false⟩] :=
    markFrom_plain plain ['0']
  obtain word | literal | ⟨before, pattern, after, found, printed⟩ := formatSection_undefined h
  · exact .inl (List.append_left_eq_self.1 word)
  · have longer := length_literalText_le (symbol ++ ['0'])
    rw [← literal, text_nan] at longer
    simp at longer
  right
  obtain ⟨span, parts, isSpan⟩ :=
    exists_span_of_leftmost (fun _ _ _ => exists_span_of_readFixed) found
  obtain ⟨m, first, sought⟩ := isSpan.first
  cases span with
  | nil => cases first
  | cons n span =>
    obtain rfl : n = m := by simpa using first
    have code : symbol ++ ['0'] = chars before ++ n.char :: (chars span ++ chars after) := by
      rw [← chars_markFrom false (symbol ++ ['0']), ← marks, parts]
      simp [chars]
    have other : n.char ≠ 'n' := by
      intro letter
      have isFirst := mem_of_isPlaceholder_or_isPoint sought
      rw [letter] at isFirst
      exact absurd isFirst (by decide)
    obtain ⟨rfl, none, literal⟩ := eq_of_word_behind code other printed
    have same : marked false (chars before) = before := by
      refine (List.append_inj (whole.symm.trans parts) ?_).1
      simp [chars, marked]
    refine ⟨literal, pattern, ?_⟩
    rw [← whole, same, ← List.map_eq_nil_iff.1 none]
    exact found

/-! ## Main result -/

/-- A currency symbol in brackets that is read as text: the brackets are in one section, the symbol
holds no place of a digit, and nothing is taken in it. -/
structure ReadsAsText (symbol locale : List Char) : Prop where
  uncut : IsUncut (currencyPart symbol locale)
  unplaced : ∀ c ∈ symbol, isDigitPlace c = false
  untaken : ∀ c ∈ symbol.dropLast, c ∉ ['_', '*']

section Symbol

variable {symbol locale : List Char} (hs : ∀ c ∈ symbol, c ∉ [']', '-', '"', '\\'])

include hs

theorem plain_of_symbol : ∀ c ∈ symbol, c ∉ ['"', '\\'] :=
  fun c hc inside => hs c hc (List.mem_append_right [']', '-'] inside)

theorem not_mem_of_symbol {c : Char} (h : c ∈ [']', '-', '"', '\\']) : c ∉ symbol :=
  fun inside => hs c inside h

/-- **A quoted symbol is shown as it is,** before the digits that the body prints alone. -/
theorem formatNumber_quotedPart (value : Number) (b : DigitBody) :
    formatNumber value (quotedPart symbol ++ b.code) =
      surround symbol [] <$> formatNumber (if '%' ∈ symbol then value.timesHundred else value)
        b.code := by
  let piece : Piece := .quoted symbol (not_mem_of_symbol hs (by decide))
  have noBracket : ']' ∉ quotedPart symbol := by
    simp [quotedPart, not_mem_of_symbol hs]
  have read : marks (quotedPart symbol ++ b.code) =
      marked true (quotedPart symbol) ++ marked false b.code :=
    marks_append_code (markFrom_code piece) b
  have hidden {m : Mark} (hm : m ∈ marked true (quotedPart symbol)) : m.hidden :=
    (mem_marked.1 hm).2
  have text : literalText (quotedPart symbol) = symbol := by
    have whole := literalText_codeOf [piece]
    simpa [codeOf, textOf, piece, Piece.code, Piece.text, quotedPart] using whole
  have printed := formatSection_body read
    (fun m hm => by simp [Mark.isPlaceholder, Mark.shows, hidden hm])
    (fun _ m hm => by simp [Mark.isPoint, Mark.shows, hidden (List.mem_of_mem_getLast? hm)]) value
  rw [chars_marked, text] at printed
  rw [(isUncut_quotedPart (plain_of_symbol hs)).formatNumber_append,
    b.stripBrackets_append_code noBracket, printed]

/-- If all numbers are shown alike, then the brackets are in one section, since the first section of
a code that is cut in the brackets does not depend on the body. -/
theorem isUncut_of_agree (agree : ∀ (value : Number) (b : DigitBody),
      formatNumber value (currencyPart symbol locale ++ b.code) =
        formatNumber value (quotedPart symbol ++ b.code)) :
    IsUncut (currencyPart symbol locale) := by
  by_contra cut
  have first (b : DigitBody) : formatNumber (.integer 1) (currencyPart symbol locale ++ b.code) =
      formatSection (stripBrackets (sections (currencyPart symbol locale)).1)
        (.integer 1) false := by
    simp only [formatNumber, numberSection, sections, splitFrom_append_of_cut cut]
    rfl
  have same := (agree (.integer 1) zeroBody).symm.trans
    ((first zeroBody).trans ((first tenthBody).symm.trans (agree (.integer 1) tenthBody)))
  rw [formatNumber_quotedPart hs, formatNumber_quotedPart hs] at same
  -- a hundred times the number is shown if the symbol has a percent sign
  have one : formatNumber (.integer 1) zeroBody.code = .ok ['1'] := by decide +kernel
  have tenths : formatNumber (.integer 1) tenthBody.code = .ok ['1', '.', '0'] := by decide +kernel
  have one' : formatNumber (Number.integer 1).timesHundred zeroBody.code = .ok ['1', '0', '0'] := by
    decide +kernel
  have tenths' : formatNumber (Number.integer 1).timesHundred tenthBody.code =
      .ok ['1', '0', '0', '.', '0'] := by
    decide +kernel
  split_ifs at same
  · rw [one', tenths'] at same
    have alike := Except.ok.inj same
    simp [surround] at alike
  · rw [one, tenths] at same
    have alike := Except.ok.inj same
    simp [surround] at alike

variable (hl : ']' ∉ locale)

include hl

/-- An uncut code with a symbol in brackets is the code that begins with the symbol. -/
theorem formatNumber_currencyPart (uncut : IsUncut (currencyPart symbol locale)) (value : Number)
    (b : DigitBody) :
    formatNumber value (currencyPart symbol locale ++ b.code) =
      formatSection (symbol ++ b.code) value value.isNegative := by
  have noBracket : ∀ c ∈ symbol, c ∉ [']', '-'] :=
    fun c hc inside => hs c hc (List.mem_append_left ['"', '\\'] inside)
  rw [uncut.formatNumber_append, stripBrackets_currencyPart noBracket hl]

/-- **A symbol in brackets that is read as text is shown as the quoted one.** A body without a whole
part begins with a point, and takes no point before it. -/
theorem formatNumber_readsAsText (reads : ReadsAsText symbol locale) (value : Number)
    {b : DigitBody}
    (starts : b.whole = [] ∨ symbol.getLast? ≠ some '.') :
    formatNumber value (currencyPart symbol locale ++ b.code) =
      formatNumber value (quotedPart symbol ++ b.code) := by
  have plain := plain_of_symbol hs
  have literal : literalText symbol = symbol := (literalText_eq_self_iff plain).2 reads.untaken
  have unplaced : ∀ m ∈ marked false symbol, m.isPlaceholder = false := by
    simpa [forall_mem_marked] using reads.unplaced
  have noPoint : b.whole ≠ [] → ∀ m ∈ (marked false symbol).getLast?, m.isPoint = false := by
    intro whole m hm
    have last := starts.resolve_left whole
    obtain ⟨c, hc, rfl⟩ : ∃ c, symbol.getLast? = some c ∧ ⟨c, false⟩ = m := by
      simpa [marked] using hm
    rw [isPoint_visible, beq_eq_false_iff_ne]
    rintro rfl
    exact last hc
  have printed := formatSection_body (marks_append_code (markFrom_plain plain) b) unplaced
      noPoint value
  rw [chars_marked, literal] at printed
  rw [formatNumber_currencyPart hs hl reads.uncut, printed, formatNumber_quotedPart hs]

/-- **If all numbers are shown alike, the symbol is read as text.** An undefined number under the
body `0` tells it. -/
theorem readsAsText_of_agree (agree : ∀ (value : Number) (b : DigitBody),
      formatNumber value (currencyPart symbol locale ++ b.code) =
        formatNumber value (quotedPart symbol ++ b.code)) :
    ReadsAsText symbol locale ∧ symbol.getLast? ≠ some '.' := by
  have uncut := isUncut_of_agree hs agree
  have plain := plain_of_symbol hs
  have shown : formatSection (symbol ++ ['0']) undefinedNumber false =
      .ok (symbol ++ Double.nan.text) := by
    have word : formatNumber undefinedNumber zeroBody.code = .ok Double.nan.text := by
      decide +kernel
    have quoted := formatNumber_quotedPart hs undefinedNumber zeroBody
    rw [timesHundred_undefined, ite_self, word, ← agree, formatNumber_currencyPart hs hl uncut]
      at quoted
    have text : surround symbol [] Double.nan.text = symbol ++ Double.nan.text := by
      simp [surround, text_nan]
    rw [← text]
    exact quoted
  obtain rfl | ⟨literal, pattern, found⟩ := found_of_formatSection_undefined plain shown
  · exact ⟨⟨uncut, by simp, by simp⟩, by simp⟩
  refine ⟨⟨uncut, ?_, (literalText_eq_self_iff plain).1 literal⟩, ?_⟩
  · intro c hc
    obtain ⟨init, post, rfl⟩ := List.append_of_mem hc
    have passed : readFixed (⟨c, false⟩ :: (marked false post ++ [⟨'0', false⟩])) = none :=
      fails_of_leftmost found (marked_append false init (c :: post))
    by_contra place
    refine readFixed_ne_none ?_ _ passed
    simpa using place
  · intro last
    obtain ⟨init, rfl⟩ := List.getLast?_eq_some_iff.1 last
    have passed : readFixed (⟨'.', false⟩ :: ([] ++ [⟨'0', false⟩])) = none :=
      fails_of_leftmost found (marked_append false init ['.'])
    revert passed
    decide

/-- **A currency symbol in brackets is shown like a quoted one if it is read as text.** A quoted
symbol is shown as it is, before the digits of the body. A symbol in brackets is shown likewise for
every number and every body if the brackets are in one section, the symbol holds no place of a
digit, no underscore or asterisk in it has a character behind it, and it does not end with a point;
and only then. A point at its end does no harm to a body that begins with a point itself. -/
theorem formatNumber_currency_iff :
    (∀ (value : Number) (b : DigitBody), formatNumber value (quotedPart symbol ++ b.code) =
      surround symbol [] <$>
        formatNumber (if '%' ∈ symbol then value.timesHundred else value) b.code) ∧
    (ReadsAsText symbol locale → ∀ (value : Number) (b : DigitBody),
      b.whole = [] ∨ symbol.getLast? ≠ some '.' →
        formatNumber value (currencyPart symbol locale ++ b.code) =
          formatNumber value (quotedPart symbol ++ b.code)) ∧
    ((∀ (value : Number) (b : DigitBody),
        formatNumber value (currencyPart symbol locale ++ b.code) =
          formatNumber value (quotedPart symbol ++ b.code)) ↔
      ReadsAsText symbol locale ∧ symbol.getLast? ≠ some '.') := by
  refine ⟨formatNumber_quotedPart hs, ?_, ?_, ?_⟩
  · intro reads value b starts
    exact formatNumber_readsAsText hs hl reads value starts
  · exact readsAsText_of_agree hs hl
  · rintro ⟨reads, last⟩ value b
    exact formatNumber_readsAsText hs hl reads value (.inr last)

end Symbol

/-- The symbol of the Brazilian real. -/
theorem formatNumber_currency_iff_real :
    (∀ c ∈ ['R', '$'], c ∉ [']', '-', '"', '\\']) ∧ ']' ∉ "416".toList ∧
      ReadsAsText ['R', '$'] "416".toList ∧
      formatNumber (.integer (-1234567890)) "[$R$-416]#,##0.00,".toList =
        .ok "-R$1,234,567.89".toList := by
  have symbol : ∀ c ∈ ['R', '$'], c ∉ [']', '-', '"', '\\'] := by simp
  have locale : ']' ∉ "416".toList := by decide
  have reads : ReadsAsText ['R', '$'] "416".toList :=
    ⟨by decide +kernel, by simp [isDigitPlace], by simp⟩
  obtain ⟨quoted, alike, -⟩ := formatNumber_currency_iff symbol locale
  have result := alike reads (.integer (-1234567890)) thousands (.inr (by decide))
  rw [quoted] at result
  refine ⟨symbol, locale, reads, result.trans ?_⟩
  decide +kernel

/-- The point at the end of the symbol of the Danish krone is read as that of the number. -/
theorem exists_symbol_read :
    ∃ (symbol locale : List Char) (b : DigitBody),
      (∀ c ∈ symbol, c ∉ [']', '-', '"', '\\']) ∧ ']' ∉ locale ∧
      currencyPart symbol locale ++ b.code = "[$kr.-406]0".toList ∧
      formatNumber (.integer 5) (currencyPart symbol locale ++ b.code) = .ok "kr5.0".toList ∧
      formatNumber (.integer 5) (quotedPart symbol ++ b.code) = .ok "kr.5".toList := by
  refine ⟨['k', 'r', '.'], "406".toList, zeroBody, by simp, by decide, by decide +kernel,
    by decide +kernel, by decide +kernel⟩

end SlideMerge.Format
