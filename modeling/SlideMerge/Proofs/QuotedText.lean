import SlideMerge.Proofs.Minutes
import SlideMerge.Proofs.Separators

/-!
# Quoted text in date codes

Between quotes every character stands for itself: letters are no fields, a semicolon separates
nothing, and `am/pm` does not change the clock.

**Whole lexemes** (`Lexeme.IsWhole`) are read in one way, whatever stands behind them
(`lexemes_written_append`). A code of whole lexemes has the same parts in front of a quote as it has
by itself (`dateParts_append_quote`), since no field goes on past a quote
(`fieldLength_append_quote`).

**Plain lexemes** (`Lexeme.IsPlain`) are whole, and neither the splitter nor the search for brackets
finds anything in them, so the parts of the code are those of its section (`sectionParts_written`).

Quoted text is then a literal part between two stretches of parts, and what these show depends on
nothing but their fields.

Main result: `exists_formatDateTime_quoted`.
-/

namespace SlideMerge.Format

open Calendar Text

/-! ## Whole lexemes -/

/-- A lexeme that is read in one way, whatever stands behind it. -/
def Lexeme.IsWhole (taking : List Char) : Lexeme → Prop
  | quoted _ _ => True
  | unclosed _ _ => False
  | pair mark _ => mark ∈ taking ∧ mark ≠ '"'
  | bare c => c ∉ taking ∧ c ≠ '"'

theorem lexemes_code_append {taking : List Char} {l : Lexeme} (h : l.IsWhole taking)
    (rest : List Char) : lexemes taking (l.code ++ rest) = l :: lexemes taking rest := by
  cases l with
  | quoted content closed => simpa [Lexeme.code] using lexemes_quoted closed rest
  | unclosed content unclosed => exact h.elim
  | pair mark taken => exact lexemes_pair h.1 h.2 taken rest
  | bare c => exact lexemes_bare h.1 h.2 rest

/-- **Whole lexemes are read one by one.** -/
theorem lexemes_written_append {taking : List Char} {ls : List Lexeme}
    (h : ∀ l ∈ ls, l.IsWhole taking) (rest : List Char) :
    lexemes taking (written ls ++ rest) = ls ++ lexemes taking rest := by
  induction ls with
  | nil => rfl
  | cons l ls ih =>
    obtain ⟨first, others⟩ := List.forall_mem_cons.1 h
    rw [written_cons, List.append_assoc, lexemes_code_append first, ih others, List.cons_append]

@[simp] theorem written_map_bare (cs : List Char) : written (cs.map .bare) = cs := by
  induction cs with
  | nil => rfl
  | cons c cs ih => simp [Lexeme.code, ih]

/-- A code whose reading, as literal text, does not depend on what stands behind it. -/
def EndsWhole (code : List Char) : Prop :=
  ∀ l ∈ lexemes literalTaking code, l.IsWhole literalTaking

theorem EndsWhole.behind {ls : List Lexeme} (h : ∀ l ∈ ls, l.IsWhole literalTaking)
    {rest : List Char}
    (whole : EndsWhole (written ls ++ rest)) : EndsWhole rest := by
  intro l hl
  refine whole l ?_
  rw [lexemes_written_append h]
  exact List.mem_append_right ls hl

theorem EndsWhole.behind_run {run : List Char} (h : ∀ c ∈ run, c ∉ literalTaking ∧ c ≠ '"')
    {rest : List Char} (whole : EndsWhole (run ++ rest)) : EndsWhole rest := by
  have bare : ∀ l ∈ run.map Lexeme.bare, l.IsWhole literalTaking := by
    intro l hl
    obtain ⟨c, hc, rfl⟩ := List.mem_map.1 hl
    exact h c hc
  refine EndsWhole.behind bare ?_
  rwa [written_map_bare]

theorem EndsWhole.behind_pair {mark c : Char} (h : mark ∈ literalTaking) (quote : mark ≠ '"')
    {rest : List Char} (whole : EndsWhole (mark :: c :: rest)) : EndsWhole rest :=
  @EndsWhole.behind [.pair mark c] (List.forall_mem_singleton.2 ⟨h, quote⟩) rest whole

theorem EndsWhole.behind_quoted {content : List Char} (h : '"' ∉ content) {rest : List Char}
    (whole : EndsWhole ('"' :: (content ++ '"' :: rest))) : EndsWhole rest := by
  have first : ∀ l ∈ [Lexeme.quoted content h], l.IsWhole literalTaking :=
    List.forall_mem_singleton.2 trivial
  refine EndsWhole.behind first ?_
  simpa [Lexeme.code] using whole

/-! ## Fields in front of a quote -/

theorem takeWhile_append_quote {p : Char → Bool} (hp : p '"' = false) (text rest : List Char) :
    (text ++ '"' :: rest).takeWhile p = text.takeWhile p := by
  induction text with
  | nil => simp [hp]
  | cons c text ih => simp [List.takeWhile_cons, ih]

theorem beginsWith_cons_cons (w c : Char) (word text : List Char) :
    beginsWith (w :: word) (c :: text) = (c.toLower == w && beginsWith word text) :=
  rfl

theorem beginsWith_append_quote {word : List Char} (hw : '"' ∉ word) (text rest : List Char) :
    beginsWith word (text ++ '"' :: rest) = beginsWith word text := by
  induction word generalizing text with
  | nil => rfl
  | cons w word ih =>
    rw [List.mem_cons, not_or] at hw
    cases text with
    | nil =>
      have quote : (Char.toLower '"' == w) = false := by simpa using hw.1
      rw [List.nil_append, beginsWith_cons_cons, quote, Bool.false_and]
      rfl
    | cons c text =>
      rw [List.cons_append, beginsWith_cons_cons, beginsWith_cons_cons, ih hw.2]

theorem length_of_beginsWith {word text : List Char} (h : beginsWith word text) :
    word.length ≤ text.length := by
  have lower : (text.take word.length).map Char.toLower = word := by simpa [beginsWith] using h
  have length := congrArg List.length lower
  rw [List.length_map, List.length_take] at length
  omega

theorem fieldLength_append_quote (c : Char) (text rest : List Char) :
    fieldLength (c :: (text ++ '"' :: rest)) = fieldLength (c :: text) := by
  have word {w : List Char} (hw : '"' ∉ w) :
      beginsWith w (c :: (text ++ '"' :: rest)) = beginsWith w (c :: text) :=
    beginsWith_append_quote hw (c :: text) rest
  cases run : runClass? c with
  | some inRun =>
    have quote : inRun '"' = false := by
      rw [← Bool.not_eq_true]
      intro letter
      exact (ordinary_of_lower ((runClass?_spec run).2 '"' letter)).2 rfl
    simp only [fieldLength, run, takeWhile_append_quote quote]
  | none =>
    have long : '"' ∉ ['a', 'm', '/', 'p', 'm'] := by decide
    have short : '"' ∉ ['a', '/', 'p'] := by decide
    have zeros := takeWhile_append_quote (p := (· == '0')) rfl text rest
    simp only [fieldLength, run, word long, word short, zeros]

theorem fieldLength_le (text : List Char) : fieldLength text ≤ text.length := by
  cases text with
  | nil => exact Nat.le_refl 0
  | cons c rest =>
    have run (p : Char → Bool) : (rest.takeWhile p).length ≤ rest.length :=
      (List.takeWhile_prefix p).length_le
    unfold fieldLength
    dsimp only
    split
    · next inRun _ =>
      have inside := run inRun
      rw [List.length_cons]
      omega
    · split_ifs with long short point
      · exact length_of_beginsWith long
      · exact length_of_beginsWith short
      · have zeros := run (· == '0')
        split
        · exact Nat.zero_le _
        · rw [List.length_cons]
          omega
      · exact Nat.zero_le _

/-! ## Parts in front of a quote -/

theorem dateParts_quoted {content : List Char} (h : '"' ∉ content) (rest : List Char) :
    dateParts ('"' :: (content ++ '"' :: rest)) = .literal content :: dateParts rest := by
  obtain ⟨inside, behind⟩ := span_quoted h rest
  rw [dateParts, inside, behind]

theorem EndsWhole.exists_closed {rest : List Char} (whole : EndsWhole ('"' :: rest)) :
    ∃ content behind, rest = content ++ '"' :: behind ∧ '"' ∉ content := by
  have closed : '"' ∈ rest := by
    by_contra unclosed
    refine whole (.unclosed rest unclosed) ?_
    simp [lexemes_unclosed unclosed]
  exact List.eq_append_cons_of_mem closed

/-- At the end of a code of whole lexemes no character waits for one to take. -/
theorem EndsWhole.not_taking {c : Char} (whole : EndsWhole [c]) (quote : c ≠ '"') :
    c ∉ literalTaking := by
  have last : Lexeme.bare c ∈ lexemes literalTaking [c] := by simp [lexemes_last quote]
  exact (whole _ last).1

/-- **A code of whole lexemes has the same parts in front of a quote.** -/
theorem dateParts_append_quote {code : List Char} (whole : EndsWhole code) (rest : List Char) :
    dateParts (code ++ '"' :: rest) = dateParts code ++ dateParts ('"' :: rest) := by
  -- a character that takes none is read as in front of nothing
  have plain {c : Char} {text : List Char} (whole : EndsWhole (c :: text)) (quote : c ≠ '"')
      (backslash : ∀ d others, c = '\\' → text = d :: others → False)
      (underscore : ∀ d others, c = '_' → text = d :: others → False)
      (asterisk : ∀ d others, c = '*' → text = d :: others → False) :
      c ∉ ['"', '\\', '_', '*'] := by
    cases text with
    | nil =>
      have takes := whole.not_taking quote
      simpa [literalTaking, quote] using takes
    | cons d others =>
      simp only [List.mem_cons, List.not_mem_nil, or_false, not_or]
      exact ⟨quote, fun eq => backslash d others eq rfl, fun eq => underscore d others eq rfl,
        fun eq => asterisk d others eq rfl⟩
  induction code using dateParts.induct with
  | case1 => simp [dateParts.eq_1]
  | case2 text ih =>
    obtain ⟨content, behind, rfl, first⟩ := whole.exists_closed
    rw [(span_quoted first behind).2] at ih
    have others := ih (whole.behind_quoted first)
    rw [List.cons_append, List.append_assoc, List.cons_append, dateParts_quoted first,
      dateParts_quoted first, others, List.cons_append]
  | case3 c text ih =>
    have others := ih (whole.behind_pair (by decide) (by decide))
    simp [dateParts.eq_3, others]
  | case4 c text ih =>
    have others := ih (whole.behind_pair (by decide) (by decide))
    simp [dateParts.eq_4, others]
  | case5 c text ih =>
    have others := ih (whole.behind_pair (by decide) (by decide))
    simp [dateParts.eq_5, others]
  | case6 c text quote backslash underscore asterisk none ih =>
    have ordinary := plain whole quote backslash underscore asterisk
    have one := fieldLength_append_quote c text rest
    rw [none] at one
    have single : ∀ d ∈ [c], d ∉ literalTaking ∧ d ≠ '"' := by
      simpa [literalTaking, and_comm, and_assoc] using ordinary
    have others := ih (EndsWhole.behind_run single whole)
    rw [List.cons_append, dateParts_cons ordinary, dateParts_cons ordinary, one, none]
    simp [others]
  | case7 c text quote backslash underscore asterisk n field ih =>
    have ordinary := plain whole quote backslash underscore asterisk
    have length := fieldLength_append_quote c text rest
    rw [field] at length
    have short : n ≤ text.length := by
      have bound := fieldLength_le (c :: text)
      rw [field, List.length_cons] at bound
      omega
    have split : c :: text = (c :: text.take n) ++ text.drop n := by simp
    have others := ih (EndsWhole.behind_run (ordinary_of_fieldLength field) (split ▸ whole))
    rw [List.cons_append, dateParts_cons ordinary, dateParts_cons ordinary, length, field]
    simp only [List.take_append_of_le_length short, List.drop_append_of_le_length short, others,
      List.cons_append]

/-! ## Plain lexemes -/

/-- A lexeme in which neither a separator nor a bracket is found: a backslash takes any character
but a bracket, quoted text has no backslash and no bracket, and a character by itself has no meaning
outside fields. -/
def Lexeme.IsPlain : Lexeme → Prop
  | quoted content _ => ∀ c ∈ content, c ∉ ['\\', '[', ']']
  | unclosed _ _ => False
  | pair mark taken => mark = '\\' ∧ taken ∉ ['[', ']']
  | bare c => c ∉ ['"', '\\', '_', '*', '[', ']', ';']

instance : DecidablePred Lexeme.IsPlain
  | .quoted content _ => inferInstanceAs (Decidable (∀ c ∈ content, c ∉ ['\\', '[', ']']))
  | .unclosed _ _ => .isFalse id
  | .pair mark taken => inferInstanceAs (Decidable (mark = '\\' ∧ taken ∉ ['[', ']']))
  | .bare c => inferInstanceAs (Decidable (c ∉ ['"', '\\', '_', '*', '[', ']', ';']))

namespace Lexeme.IsPlain

variable {l : Lexeme}

theorem isWhole (h : l.IsPlain) : l.IsWhole literalTaking := by
  cases l with
  | quoted content closed => trivial
  | unclosed content unclosed => exact h
  | pair mark taken =>
    obtain ⟨rfl, -⟩ := h
    exact ⟨by decide, by decide⟩
  | bare c =>
    simp only [IsPlain, List.mem_cons, not_or] at h
    simp [IsWhole, literalTaking, h]

theorem not_mem_code (h : l.IsPlain) : '[' ∉ l.code := by
  cases l with
  | quoted content closed =>
    have inside : '[' ∉ content := fun bracket => h '[' bracket (by decide)
    simp [code, inside]
  | unclosed content unclosed => exact h.elim
  | pair mark taken =>
    obtain ⟨rfl, bracket⟩ := h
    have other : '[' ≠ taken := by
      rintro rfl
      exact bracket (by decide)
    simp [code, other]
  | bare c =>
    have other : '[' ≠ c := by
      rintro rfl
      exact h (by decide)
    simp [code, other]

theorem sections_code_append (h : l.IsPlain) (rest : List Char) :
    sections (l.code ++ rest) = (l.code ++ (sections rest).1, (sections rest).2) := by
  cases l with
  | quoted content closed =>
    have within : ∀ c ∈ content, c ∉ ['"', '\\'] := by
      intro c hc
      have special := h c hc
      simp only [List.mem_cons, not_or] at special
      simp [special, ne_of_mem_of_not_mem hc closed]
    simpa [code, sections] using splitFrom_quoted within rest
  | unclosed content unclosed => exact h.elim
  | pair mark taken =>
    obtain ⟨rfl, -⟩ := h
    exact splitFrom_closed (isClosed_pair taken) rest
  | bare c =>
    have other {d : Char} (hd : d ∈ ['"', '\\', '_', '*', '[', ']', ';']) : c ≠ d :=
      (ne_of_mem_of_not_mem hd h).symm
    have closed := isClosed_bare (other (by decide)) (other (by decide)) (other (by decide))
    exact splitFrom_closed closed rest

end Lexeme.IsPlain

/-- **The parts of a code of plain lexemes are those of its section.** -/
theorem sectionParts_written {ls : List Lexeme} (h : ∀ l ∈ ls, l.IsPlain) :
    sectionParts (written ls) = dateParts (written ls) := by
  have uncut : sections (written ls) = (written ls, []) := by
    induction ls with
    | nil => rfl
    | cons l ls ih =>
      obtain ⟨first, others⟩ := List.forall_mem_cons.1 h
      rw [written_cons, first.sections_code_append, ih others]
  have bracket : '[' ∉ written ls := by
    intro inside
    obtain ⟨l, hl, inCode⟩ := List.mem_flatMap.1 inside
    exact (h l hl).not_mem_code inCode
  have kept := stripBrackets_append bracket []
  rw [List.append_nil, stripBrackets_nil, List.append_nil] at kept
  rw [sectionParts, uncut, kept]

theorem endsWhole_written {ls : List Lexeme} (h : ∀ l ∈ ls, l.IsPlain) :
    EndsWhole (written ls) := by
  have read := lexemes_written_append (fun l hl => (h l hl).isWhole) []
  rw [List.append_nil, lexemes_nil, List.append_nil] at read
  intro l hl
  rw [read] at hl
  exact (h l hl).isWhole

/-- **Quoted text in a date code is opaque.** Whatever stands between two quotes, it is shown as it
is, and what the code shows before and behind it is the same for every such text: which fields of
`m` are minutes, on which clock the hours are, and where the section ends. -/
theorem exists_formatDateTime_quoted {before after : List Lexeme} (hb : ∀ l ∈ before, l.IsPlain)
    (ha : ∀ l ∈ after, l.IsPlain) (t : DateTime) :
    ∃ front back : List Char, ∀ text : List Char, (∀ c ∈ text, c ∉ ['"', '\\', '[', ']']) →
      formatDateTime t (written before ++ '"' :: (text ++ '"' :: written after)) =
        front ++ text ++ back := by
  let parts := dateParts (written before)
  let parts' := dateParts (written after)
  let twelve := (parts ++ parts').any DatePart.asksTwelveHour
  refine ⟨shownBetween twelve t none (firstField? parts') parts,
    shownBetween twelve t (fieldBefore none parts) none parts', ?_⟩
  intro text plain
  have closed : '"' ∉ text := fun quote => plain '"' quote (by decide)
  have whole : written before ++ '"' :: (text ++ '"' :: written after) =
      written (before ++ .quoted text closed :: after) := by
    simp [Lexeme.code]
  have all : ∀ l ∈ before ++ Lexeme.quoted text closed :: after, l.IsPlain := by
    intro l hl
    obtain inBefore | inside := List.mem_append.1 hl
    · exact hb l inBefore
    · obtain rfl | inAfter := List.mem_cons.1 inside
      · exact fun c hc special => plain c hc (List.mem_cons_of_mem _ special)
      · exact ha l inAfter
  have cut : sectionParts (written before ++ '"' :: (text ++ '"' :: written after)) =
      parts ++ .literal text :: parts' := by
    rw [whole, sectionParts_written all, ← whole, dateParts_append_quote (endsWhole_written hb),
      dateParts_quoted closed]
  have asks : (parts ++ .literal text :: parts').any DatePart.asksTwelveHour = twelve := by
    simp [twelve, DatePart.asksTwelveHour]
  have next : fieldBehind (.literal text :: parts') none = firstField? parts' := Option.or_none
  rw [formatDateTime_eq, cut, asks, shownBetween_append, shownBetween_literal, next,
    List.append_assoc]

/-- Between hours and `mm`, quoted text keeps the minutes minutes. -/
theorem exists_formatDateTime_quoted_hours :
    let t : DateTime := ⟨timeOnlyDate, pastTwo⟩
    let before := "h".toList.map Lexeme.bare
    let after := "mm".toList.map Lexeme.bare
    (∀ l ∈ before, l.IsPlain) ∧ (∀ l ∈ after, l.IsPlain) ∧
      ∃ front back : List Char, ∀ text : List Char, (∀ c ∈ text, c ∉ ['"', '\\', '[', ']']) →
        formatDateTime t (written before ++ '"' :: (text ++ '"' :: written after)) =
          front ++ text ++ back := by
  intro t before after
  have hb : ∀ l ∈ before, l.IsPlain := by decide
  have ha : ∀ l ∈ after, l.IsPlain := by decide
  exact ⟨hb, ha, exists_formatDateTime_quoted hb ha t⟩

example : formatDateTime ⟨timeOnlyDate, pastTwo⟩ "h\" am/pm; s.0 \"mm".toList =
    "14 am/pm; s.0 05".toList := by
  decide +kernel

end SlideMerge.Format
