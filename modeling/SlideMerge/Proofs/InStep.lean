import SlideMerge.Proofs.QuotedText

/-!
# Date codes and literal text are read in step

Two readers go through a code from its beginning: one cuts it into fields and literal text, the
other renders all of it as literal text.

**Rounds** (`Reader`). A reader works in rounds. Each of them reads something from the beginning of
the code, and there is another one as long as the code is not empty. So a reader comes to the end of
every code, with at most one round for each character (`Reader.rounds_of_unfolds`,
`Reader.Rounds.length_add_le`).

**In step.** What the reader of dates reads in one round is one lexeme of literal text, or a field,
whose characters are lexemes by themselves (`exists_rounds_of_datePart?`). Wherever the reader of
dates comes, the other one comes too, with the same text so far (`exists_rounds_of_dateRounds`). A
field is therefore never taken from quoted text or from what a backslash, an underscore or an
asterisk takes.

Main result: `dateParts_inStep`.
-/

namespace SlideMerge.Format

open Text

/-! ## Readers -/

/-- A reader of codes that works in rounds: as long as there is a code, a round puts something out
and leaves a shorter one. -/
structure Reader (α : Type) where
  round : List Char → Option (α × List Char)
  eq_nil_of_none : ∀ {code}, round code = none → code = []
  shorter : ∀ {code a rest}, round code = some (a, rest) → rest.length < code.length

namespace Reader

variable {α : Type} {r : Reader α}

/-- The rounds from a code on: what they put out, and the code that they leave. -/
inductive Rounds (r : Reader α) : List Char → List α → List Char → Prop
  | none (code : List Char) : Rounds r code [] code
  | next {code rest left : List Char} {a : α} {out : List α} (h : r.round code = some (a, rest))
      (others : Rounds r rest out left) : Rounds r code (a :: out) left

/-- A function that puts out what the rounds do. -/
structure Unfolds (r : Reader α) (f : List Char → List α) : Prop where
  eq_nil : f [] = []
  eq_cons : ∀ {code rest a}, r.round code = some (a, rest) → f code = a :: f rest

namespace Rounds

variable {code rest left : List Char} {out more : List α}

theorem single {a : α} (h : r.round code = some (a, rest)) : r.Rounds code [a] rest :=
  .next h (.none rest)

theorem trans (h : r.Rounds code out rest) (h' : r.Rounds rest more left) :
    r.Rounds code (out ++ more) left := by
  induction h with
  | none => exact h'
  | next first _ ih => exact .next first (ih h')

/-- **Each round takes a character at least.** -/
theorem length_add_le (h : r.Rounds code out rest) : out.length + rest.length ≤ code.length := by
  induction h with
  | none => simp
  | next first _ ih =>
    have shorter := r.shorter first
    rw [List.length_cons]
    omega

theorem eq_append {f : List Char → List α} (hf : r.Unfolds f) (h : r.Rounds code out rest) :
    f code = out ++ f rest := by
  induction h with
  | none => rfl
  | next first _ ih => rw [hf.eq_cons first, ih, List.cons_append]

end Rounds

/-- **A reader comes to the end of every code.** -/
theorem rounds_of_unfolds {f : List Char → List α} (hf : r.Unfolds f) (code : List Char) :
    r.Rounds code (f code) [] := by
  induction length : code.length using Nat.strong_induction_on generalizing code with
  | _ n ih =>
    subst length
    cases first : r.round code with
    | none =>
      rw [r.eq_nil_of_none first, hf.eq_nil]
      exact .none []
    | some next =>
      obtain ⟨a, rest⟩ := next
      rw [hf.eq_cons first]
      exact .next first (ih rest.length (r.shorter first) rest rfl)

end Reader

/-! ## Literal text -/

/-- The lexeme of literal text at the beginning of a code, and the code behind it. -/
def literalPart? : List Char → Option (Lexeme × List Char)
  | [] => none
  | c :: rest =>
    if c = '"' then
      if h : '"' ∈ rest then
        some (.quoted (rest.takeWhile (· != '"')) (quote_not_mem_takeWhile rest),
          (rest.dropWhile (· != '"')).drop 1)
      else some (.unclosed rest h, [])
    else
      match rest with
      | [] => some (.bare c, [])
      | d :: rest =>
        if c ∈ literalTaking then some (.pair c d, rest) else some (.bare c, d :: rest)

theorem lexemes_unfolds (code : List Char) :
    lexemes literalTaking code =
      match literalPart? code with
      | none => []
      | some (l, rest) => l :: lexemes literalTaking rest := by
  fun_cases literalPart? code with
  | case1 => exact lexemes_nil
  | case2 rest found =>
    rw [lexemes.eq_def]
    dsimp only
    rw [if_pos rfl, dif_pos found]
  | case3 rest found => simp [lexemes_unclosed found]
  | case4 c quote => simp [lexemes_last quote]
  | case5 c quote d rest takes => simp [lexemes_pair takes quote]
  | case6 c quote d rest takes => simp [lexemes_bare takes quote]

theorem literalPart?_eq_some_iff {code rest : List Char} {l : Lexeme} :
    literalPart? code = some (l, rest) ↔
      code = l.code ++ rest ∧ lexemes literalTaking code = l :: lexemes literalTaking rest := by
  have unfolds := lexemes_unfolds code
  constructor
  · intro h
    rw [h] at unfolds
    have parts := written_lexemes literalTaking code
    rw [unfolds, written_cons, written_lexemes] at parts
    exact ⟨parts.symm, unfolds⟩
  · rintro ⟨parts, read⟩
    rw [read] at unfolds
    cases h : literalPart? code with
    | none =>
      rw [h] at unfolds
      cases unfolds
    | some first =>
      obtain ⟨l', rest'⟩ := first
      rw [h] at unfolds
      obtain ⟨rfl, behind⟩ := List.cons.inj unfolds
      have same := congrArg written behind
      rw [written_lexemes, written_lexemes] at same
      rw [same]

theorem Lexeme.length_code_pos (l : Lexeme) : 0 < l.code.length := by
  cases l <;> simp [code]

def literalReader : Reader Lexeme where
  round := literalPart?
  eq_nil_of_none := by
    intro code h
    have unfolds := lexemes_unfolds code
    rw [h] at unfolds
    rw [← written_lexemes literalTaking code, unfolds, written_nil]
  shorter := by
    intro code l rest h
    obtain ⟨parts, -⟩ := literalPart?_eq_some_iff.1 h
    have positive := l.length_code_pos
    rw [parts, List.length_append]
    omega

theorem literalReader_unfolds : literalReader.Unfolds (lexemes literalTaking) where
  eq_nil := lexemes_nil
  eq_cons := fun h => (literalPart?_eq_some_iff.1 h).2

theorem Reader.Rounds.lexemes_eq {code rest : List Char} {ls : List Lexeme}
    (h : literalReader.Rounds code ls rest) :
    code = written ls ++ rest ∧ lexemes literalTaking code = ls ++ lexemes literalTaking rest := by
  refine ⟨?_, h.eq_append literalReader_unfolds⟩
  induction h with
  | none => rfl
  | next first _ ih =>
    obtain ⟨parts, -⟩ := literalPart?_eq_some_iff.1 first
    rw [written_cons, List.append_assoc, ← ih, parts]

theorem rounds_lexeme {code rest : List Char} {l : Lexeme} (parts : code = l.code ++ rest)
    (read : lexemes literalTaking code = l :: lexemes literalTaking rest) :
    literalReader.Rounds code [l] rest := by
  have first : literalPart? code = some (l, rest) := literalPart?_eq_some_iff.2 ⟨parts, read⟩
  exact .single first

theorem rounds_quoted {content : List Char} (h : '"' ∉ content) (rest : List Char) :
    literalReader.Rounds ('"' :: (content ++ '"' :: rest)) [.quoted content h] rest :=
  rounds_lexeme (by simp [Lexeme.code]) (lexemes_quoted h rest)

theorem rounds_unclosed {content : List Char} (h : '"' ∉ content) :
    literalReader.Rounds ('"' :: content) [.unclosed content h] [] :=
  rounds_lexeme (by simp [Lexeme.code]) (by rw [lexemes_unclosed h, lexemes_nil])

theorem rounds_pair {mark : Char} (h : mark ∈ literalTaking) (c : Char) (rest : List Char) :
    literalReader.Rounds (mark :: c :: rest) [.pair mark c] rest := by
  have quote : mark ≠ '"' := by
    rintro rfl
    exact absurd h (by decide)
  exact rounds_lexeme rfl (lexemes_pair h quote c rest)

theorem rounds_bare {c : Char} {rest : List Char} (quote : c ≠ '"')
    (h : c ∉ literalTaking ∨ rest = []) : literalReader.Rounds (c :: rest) [.bare c] rest := by
  refine rounds_lexeme rfl ?_
  obtain takes | rfl := h
  · exact lexemes_bare takes quote rest
  · rw [lexemes_last quote, lexemes_nil]

theorem rounds_ordinary {run : List Char} (h : ∀ d ∈ run, d ∉ literalTaking ∧ d ≠ '"')
    (rest : List Char) : literalReader.Rounds (run ++ rest) (run.map .bare) rest := by
  induction run with
  | nil => exact .none rest
  | cons c run ih =>
    obtain ⟨⟨takes, quote⟩, others⟩ := List.forall_mem_cons.1 h
    exact (rounds_bare quote (.inl takes)).trans (ih others)

/-! ## Date codes -/

/-- The part at the beginning of a date code, and the code behind it. -/
def datePart? : List Char → Option (DatePart × List Char)
  | [] => none
  | '"' :: rest =>
    some (.literal (rest.takeWhile (· != '"')), (rest.dropWhile (· != '"')).drop 1)
  | '\\' :: c :: rest => some (.literal [c], rest)
  | '_' :: _ :: rest => some (.literal [' '], rest)
  | '*' :: _ :: rest => some (.literal [], rest)
  | c :: rest =>
    match fieldLength (c :: rest) with
    | 0 => some (.literal [c], rest)
    | n + 1 => some (.field (c :: rest.take n), rest.drop n)

theorem dateParts_eq_cons {code rest : List Char} {part : DatePart}
    (h : datePart? code = some (part, rest)) : dateParts code = part :: dateParts rest := by
  revert h
  fun_cases datePart? code with
  | case1 => exact fun h => nomatch h
  | case2 | case3 | case4 | case5 =>
    rintro ⟨⟩
    rw [dateParts]
  | case6 c _ quote backslash underscore asterisk none =>
    rintro ⟨⟩
    rw [dateParts.eq_6 c rest quote backslash underscore asterisk, none]
  | case7 c behind quote backslash underscore asterisk n field =>
    rintro ⟨⟩
    rw [dateParts.eq_6 c behind quote backslash underscore asterisk, field]

/-- What a round of the reader of dates reads, as the reader of literal text reads it: the same
text, and for a field its characters by themselves. -/
def ReadAs (part : DatePart) (ls : List Lexeme) : Prop :=
  ls ≠ [] ∧ ls.flatMap Lexeme.text = part.text ∧ ∀ text, part = .field text → ls = text.map .bare

theorem readAs_literal {l : Lexeme} {text : List Char} (h : l.text = text) :
    ReadAs (.literal text) [l] :=
  ⟨List.cons_ne_nil _ _, h ▸ List.flatMap_singleton _ _, fun _ isField => nomatch isField⟩

theorem readAs_field {c : Char} {text : List Char} :
    ReadAs (.field (c :: text)) ((c :: text).map .bare) := by
  refine ⟨List.cons_ne_nil _ _, ?_, ?_⟩
  · rw [List.flatMap_map]
    exact List.flatMap_singleton' _
  · rintro _ ⟨⟩
    rfl

/-- **A round of the reader of dates reads one lexeme of literal text, or a field** whose characters
are lexemes by themselves. -/
theorem exists_rounds_of_datePart? {code rest : List Char} {part : DatePart}
    (h : datePart? code = some (part, rest)) :
    ∃ ls, literalReader.Rounds code ls rest ∧ ReadAs part ls := by
  revert h
  fun_cases datePart? code with
  | case1 => exact fun h => nomatch h
  | case2 behind =>
    rintro ⟨⟩
    by_cases found : '"' ∈ behind
    · obtain ⟨content, others, rfl, first⟩ := List.eq_append_cons_of_mem found
      obtain ⟨inside, behind⟩ := span_quoted first others
      rw [inside, behind]
      exact ⟨_, rounds_quoted first others, readAs_literal rfl⟩
    · have run : ∀ c ∈ behind, (c != '"') = true := by
        intro c hc
        simpa using ne_of_mem_of_not_mem hc found
      rw [List.takeWhile_eq_self_iff.2 run, List.dropWhile_eq_nil_iff.2 run]
      exact ⟨_, rounds_unclosed found, readAs_literal rfl⟩
  | case3 c | case4 c | case5 c =>
    rintro ⟨⟩
    exact ⟨_, rounds_pair (by decide) c rest, readAs_literal rfl⟩
  | case6 c _ quote backslash underscore asterisk none =>
    rintro ⟨⟩
    -- a character that takes another stands by itself only at the end
    have free : c ∉ literalTaking ∨ rest = [] := by
      cases rest with
      | nil => exact .inr rfl
      | cons d others =>
        simp only [literalTaking, List.mem_cons, List.not_mem_nil, or_false, not_or]
        exact .inl ⟨fun eq => backslash d others eq rfl, fun eq => underscore d others eq rfl,
          fun eq => asterisk d others eq rfl⟩
    exact ⟨_, rounds_bare quote free, readAs_literal rfl⟩
  | case7 c behind quote backslash underscore asterisk n field =>
    rintro ⟨⟩
    have run := rounds_ordinary (ordinary_of_fieldLength field) (behind.drop n)
    rw [List.cons_append, List.take_append_drop] at run
    exact ⟨_, run, readAs_field⟩

def dateReader : Reader DatePart where
  round := datePart?
  eq_nil_of_none := by
    intro code
    fun_cases datePart? code with
    | case1 => exact fun _ => rfl
    | case2 | case3 | case4 | case5 | case6 | case7 => exact fun h => nomatch h
  shorter := by
    intro code part rest h
    obtain ⟨ls, rounds, nonempty, -⟩ := exists_rounds_of_datePart? h
    have bound := rounds.length_add_le
    have positive := List.length_pos_iff.2 nonempty
    omega

theorem dateReader_unfolds : dateReader.Unfolds dateParts where
  eq_nil := by rw [dateParts]
  eq_cons := dateParts_eq_cons

/-- **The readers go through a code in step:** where the reader of dates comes, that of literal text
comes too, with the same text so far. -/
theorem exists_rounds_of_dateRounds {code rest : List Char} {parts : List DatePart}
    (h : dateReader.Rounds code parts rest) :
    ∃ ls, literalReader.Rounds code ls rest ∧
      ls.flatMap Lexeme.text = parts.flatMap DatePart.text := by
  induction h with
  | none code => exact ⟨[], .none code, rfl⟩
  | next first _ ih =>
    obtain ⟨ls, rounds, -, same, -⟩ := exists_rounds_of_datePart? first
    obtain ⟨others, behind, sames⟩ := ih
    refine ⟨ls ++ others, rounds.trans behind, ?_⟩
    rw [List.flatMap_append, same, sames, List.flatMap_cons]

/-! ## Main result -/

/-- **Date codes and literal text are read in step.** The parts of a date code have together the
text that the code has as literal text. Both readers come to the end of every code, with at most one
round for each character. And a field is taken from nothing but characters by themselves: where the
reader of dates takes one, the reader of literal text stands as well, with the same text so far, and
reads the characters of the field one by one. So none of them is in quoted text, and none is taken
by a backslash, an underscore or an asterisk. -/
theorem dateParts_inStep (code : List Char) :
    (dateParts code).flatMap DatePart.text = literalText code ∧
    (dateReader.Rounds code (dateParts code) [] ∧ (dateParts code).length ≤ code.length) ∧
    (literalReader.Rounds code (lexemes literalTaking code) [] ∧
      (lexemes literalTaking code).length ≤ code.length ∧
      (lexemes literalTaking code).flatMap Lexeme.text = literalText code) ∧
    ∀ parts rest, dateReader.Rounds code parts rest →
      ∃ ls, literalReader.Rounds code ls rest ∧
        ls.flatMap Lexeme.text = parts.flatMap DatePart.text ∧ code = written ls ++ rest ∧
        ∀ text rest', dateReader.round rest = some (.field text, rest') →
          rest = text ++ rest' ∧ ∃ ls', lexemes literalTaking code = ls ++
            (text.map .bare ++ ls') := by
  have dates := Reader.rounds_of_unfolds dateReader_unfolds code
  have literals := Reader.rounds_of_unfolds literalReader_unfolds code
  refine ⟨flatMap_text_dateParts code, ⟨dates, dates.length_add_le⟩,
    ⟨literals, literals.length_add_le, (literalText_eq code).symm⟩, ?_⟩
  intro parts rest reached
  obtain ⟨ls, rounds, same⟩ := exists_rounds_of_dateRounds reached
  refine ⟨ls, rounds, same, rounds.lexemes_eq.1, ?_⟩
  intro text rest' field
  obtain ⟨_, characters, -, -, isRun⟩ := exists_rounds_of_datePart? field
  obtain rfl := isRun text rfl
  obtain ⟨text_rest, -⟩ := characters.lexemes_eq
  rw [written_map_bare] at text_rest
  obtain ⟨-, read⟩ := (rounds.trans characters).lexemes_eq
  exact ⟨text_rest, _, read.trans (List.append_assoc ls _ _)⟩

/-- Of four letters `d` only the third is a field: the first is quoted, the second is taken by an
underscore and the last stands behind a quote that is never closed. -/
theorem dateParts_inStep_unclosed :
    let code := "\"d\"_dd\"d".toList
    let before := [DatePart.literal ['d'], .literal [' ']]
    dateReader.Rounds code before "d\"d".toList ∧
      dateReader.round "d\"d".toList = some (.field ['d'], "\"d".toList) ∧
      ∃ ls ls', code = written ls ++ "d\"d".toList ∧
        lexemes literalTaking code = ls ++ (.bare 'd' :: ls') := by
  intro code before
  have reached : dateReader.Rounds code before "d\"d".toList := .next rfl (.next rfl (.none _))
  have field : dateReader.round "d\"d".toList = some (.field ['d'], "\"d".toList) := rfl
  obtain ⟨-, -, -, inStep⟩ := dateParts_inStep code
  obtain ⟨ls, -, -, parts, fields⟩ := inStep before _ reached
  obtain ⟨-, ls', read⟩ := fields ['d'] _ field
  exact ⟨reached, field, ls, ls', parts, read⟩

end SlideMerge.Format
