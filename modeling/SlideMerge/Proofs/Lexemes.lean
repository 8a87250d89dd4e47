import SlideMerge.Format.DateCode
import SlideMerge.Proofs.LiteralPieces

/-!
# Lexemes of a code

Outside quotes some characters take the one behind them along. For literal text these are the
backslash, the underscore and the asterisk (`literalTaking`); for the search for placeholders it is
the backslash alone. A reading of a code (`lexemes`) cuts it into quoted text, such pairs, and
characters by themselves.

* **Nothing is lost:** the lexemes make up the code (`written_lexemes`).
* **Literal text** is the text of the lexemes (`literalText_eq`), and the parts of a date code have
  the same text (`flatMap_text_dateParts`).
* **Marks** are those of the lexemes in which only backslashes take a character (`marks_eq`).

The two readings agree as long as no underscore or asterisk takes a quote or a backslash
(`lexemes_of_steady`).
-/

namespace SlideMerge.Format

open Text

/-! ## Reading -/

/-- A part of a code that a reader takes as a whole. -/
inductive Lexeme
  /-- Text between double quotes. -/
  | quoted (content : List Char) (closed : '"' ∉ content)
  /-- A quote that is never closed, and all that follows it. -/
  | unclosed (content : List Char) (unclosed : '"' ∉ content)
  /-- A character with the one that it takes. -/
  | pair (mark taken : Char)
  /-- A character by itself. -/
  | bare (c : Char)
  deriving DecidableEq

namespace Lexeme

/-- The lexeme as it is written. -/
def code : Lexeme → List Char
  | quoted content _ => '"' :: (content ++ ['"'])
  | unclosed content _ => '"' :: content
  | pair mark taken => [mark, taken]
  | bare c => [c]

/-- The text that the lexeme stands for in literal text. -/
def text : Lexeme → List Char
  | quoted content _ => content
  | unclosed content _ => content
  | pair mark taken => if mark = '\\' then [taken] else if mark = '_' then [' '] else []
  | bare c => [c]

/-- The marks of the lexeme. A quote that is never closed hides nothing, and neither does a
backslash before a line feed. -/
def marks : Lexeme → List Mark
  | quoted content closed => marked true (quoted content closed).code
  | unclosed content _ => ⟨'"', false⟩ :: markFrom false content
  | pair mark taken => marked (taken != '\n') [mark, taken]
  | bare c => marked false [c]

end Lexeme

/-- The code that lexemes make up. -/
def written (ls : List Lexeme) : List Char :=
  ls.flatMap Lexeme.code

@[simp] theorem written_nil : written [] = [] := rfl

@[simp] theorem written_cons (l : Lexeme) (ls : List Lexeme) :
    written (l :: ls) = l.code ++ written ls := rfl

@[simp] theorem written_append (ls ls' : List Lexeme) :
    written (ls ++ ls') = written ls ++ written ls' :=
  List.flatMap_append

theorem quote_not_mem_takeWhile (rest : List Char) : '"' ∉ rest.takeWhile (· != '"') := by
  intro h
  have other := List.mem_takeWhile_imp h
  simp at other

theorem span_quoted {content : List Char} (h : '"' ∉ content) (rest : List Char) :
    (content ++ '"' :: rest).takeWhile (· != '"') = content ∧
      ((content ++ '"' :: rest).dropWhile (· != '"')).drop 1 = rest := by
  have run : ∀ c ∈ content, (c != '"') = true := by
    intro c hc
    simpa using ne_of_mem_of_not_mem hc h
  have stop : ∀ c ∈ ('"' :: rest).head?, (c != '"') = false := by
    rintro c ⟨⟩
    rfl
  exact ⟨takeWhile_run run stop, by rw [dropWhile_run run stop, List.drop_one, List.tail_cons]⟩

/-- The lexemes of a code in which the given characters take the one behind them. -/
def lexemes (taking : List Char) : List Char → List Lexeme
  | [] => []
  | c :: rest =>
    if c = '"' then
      if h : '"' ∈ rest then
        .quoted (rest.takeWhile (· != '"')) (quote_not_mem_takeWhile rest) ::
          lexemes taking ((rest.dropWhile (· != '"')).drop 1)
      else [.unclosed rest h]
    else
      match rest with
      | [] => [.bare c]
      | d :: rest =>
        if c ∈ taking then .pair c d :: lexemes taking rest
          else .bare c :: lexemes taking (d :: rest)
termination_by code => code.length
decreasing_by
  · simp only [List.length_cons, List.length_drop]
    have shorter := (List.dropWhile_suffix (l := rest) (· != '"')).length_le
    omega
  · simp only [List.length_cons]
    omega
  · simp only [List.length_cons]
    omega

variable {taking : List Char}

@[simp] theorem lexemes_nil : lexemes taking [] = [] := by
  rw [lexemes]

theorem lexemes_quoted {content : List Char} (h : '"' ∉ content) (rest : List Char) :
    lexemes taking ('"' :: (content ++ '"' :: rest)) =
      .quoted content h :: lexemes taking rest := by
  have found : '"' ∈ content ++ '"' :: rest := by simp
  obtain ⟨inside, behind⟩ := span_quoted h rest
  rw [lexemes.eq_def]
  dsimp only
  rw [if_pos rfl, dif_pos found]
  simp only [inside, behind]

theorem lexemes_unclosed {content : List Char} (h : '"' ∉ content) :
    lexemes taking ('"' :: content) = [.unclosed content h] := by
  rw [lexemes.eq_def]
  dsimp only
  rw [if_pos rfl, dif_neg h]

theorem lexemes_pair {mark : Char} (h : mark ∈ taking) (hq : mark ≠ '"') (c : Char)
    (rest : List Char) :
    lexemes taking (mark :: c :: rest) = .pair mark c :: lexemes taking rest := by
  rw [lexemes, if_neg hq]
  simp [h]

theorem lexemes_last {c : Char} (hq : c ≠ '"') : lexemes taking [c] = [.bare c] := by
  rw [lexemes, if_neg hq]

theorem lexemes_bare {c : Char} (h : c ∉ taking) (hq : c ≠ '"') (rest : List Char) :
    lexemes taking (c :: rest) = .bare c :: lexemes taking rest := by
  cases rest with
  | nil => rw [lexemes_last hq, lexemes_nil]
  | cons d rest =>
    rw [lexemes, if_neg hq]
    simp [h]

theorem lexeme_induction (taking : List Char) {motive : List Char → Prop} (nil : motive [])
    (quoted : ∀ content, '"' ∉ content → ∀ rest, motive rest →
      motive ('"' :: (content ++ '"' :: rest)))
    (unclosed : ∀ content, '"' ∉ content → motive ('"' :: content))
    (pair : ∀ mark ∈ taking, mark ≠ '"' → ∀ c rest, motive rest → motive (mark :: c :: rest))
    (last : ∀ mark ∈ taking, mark ≠ '"' → motive [mark])
    (bare : ∀ c, c ∉ taking → c ≠ '"' → ∀ rest, motive rest → motive (c :: rest))
    (code : List Char) : motive code := by
  induction length : code.length using Nat.strong_induction_on generalizing code with
  | _ n ih =>
    subst length
    have shorter {rest : List Char} (h : rest.length < code.length) : motive rest :=
      ih rest.length h rest rfl
    cases code with
    | nil => exact nil
    | cons c rest =>
      by_cases quote : c = '"'
      · subst quote
        by_cases found : '"' ∈ rest
        · obtain ⟨content, behind, rfl, first⟩ := List.eq_append_cons_of_mem found
          refine quoted content first behind (shorter ?_)
          simp only [List.length_cons, List.length_append]
          omega
        · exact unclosed rest found
      · by_cases takes : c ∈ taking
        · cases rest with
          | nil => exact last c takes quote
          | cons d rest =>
            refine pair c takes quote d rest (shorter ?_)
            simp only [List.length_cons]
            omega
        · exact bare c takes quote rest (shorter (by simp))

/-- **The lexemes of a code make it up.** -/
@[simp] theorem written_lexemes (taking code : List Char) :
    written (lexemes taking code) = code := by
  induction code using lexeme_induction taking with
  | nil => simp
  | quoted content h rest ih => simp [lexemes_quoted h, Lexeme.code, ih]
  | unclosed content h => simp [lexemes_unclosed h, Lexeme.code]
  | pair mark h hq c rest ih => simp [lexemes_pair h hq, Lexeme.code, ih]
  | last mark h hq => simp [lexemes_last hq, Lexeme.code]
  | bare c h hq rest ih => simp [lexemes_bare h hq, Lexeme.code, ih]

/-- A quote that is never closed. -/
def Lexeme.IsUnclosed : Lexeme → Prop
  | unclosed _ _ => True
  | _ => False

instance : DecidablePred Lexeme.IsUnclosed
  | .quoted _ _ => .isFalse id
  | .unclosed _ _ => .isTrue trivial
  | .pair _ _ => .isFalse id
  | .bare _ => .isFalse id

/-- What a lexeme at the beginning of a code says about its characters and about the code behind
it. -/
def Lexeme.Begins (taking rest : List Char) : Lexeme → Prop
  | quoted _ _ => True
  | unclosed _ _ => rest = []
  | pair mark _ => mark ∈ taking ∧ mark ≠ '"'
  | bare c => c ≠ '"' ∧ (c ∈ taking → rest = [])

/-- The first lexeme stands at the beginning of the code, and the others are read behind it. -/
theorem lexemes_eq_cons {code : List Char} {l : Lexeme} {ls : List Lexeme}
    (h : lexemes taking code = l :: ls) :
    ∃ rest, code = l.code ++ rest ∧ ls = lexemes taking rest ∧ l.Begins taking rest := by
  induction code using lexeme_induction taking with
  | nil => simp at h
  | quoted content closed rest =>
    rw [lexemes_quoted closed] at h
    obtain ⟨rfl, rfl⟩ := List.cons.inj h
    exact ⟨rest, by simp [Lexeme.code], rfl, trivial⟩
  | unclosed content unclosed =>
    rw [lexemes_unclosed unclosed] at h
    obtain ⟨rfl, rfl⟩ := List.cons.inj h
    exact ⟨[], by simp [Lexeme.code], lexemes_nil.symm, rfl⟩
  | pair mark takes quote c rest =>
    rw [lexemes_pair takes quote] at h
    obtain ⟨rfl, rfl⟩ := List.cons.inj h
    exact ⟨rest, rfl, rfl, takes, quote⟩
  | last mark takes quote =>
    rw [lexemes_last quote] at h
    obtain ⟨rfl, rfl⟩ := List.cons.inj h
    exact ⟨[], rfl, lexemes_nil.symm, quote, fun _ => rfl⟩
  | bare c takes quote rest =>
    rw [lexemes_bare takes quote] at h
    obtain ⟨rfl, rfl⟩ := List.cons.inj h
    exact ⟨rest, rfl, rfl, quote, fun inside => absurd inside takes⟩

theorem lexemes_eq_append {code : List Char} {ls ls' : List Lexeme}
    (h : lexemes taking code = ls ++ ls') :
    code = written ls ++ written ls' ∧ lexemes taking (written ls') = ls' := by
  induction ls generalizing code with
  | nil =>
    have whole : written ls' = code := by rw [← written_lexemes taking code, h, List.nil_append]
    exact ⟨whole.symm, whole ▸ h⟩
  | cons l ls ih =>
    obtain ⟨rest, rfl, behind, -⟩ := lexemes_eq_cons h
    obtain ⟨parts, read⟩ := ih behind.symm
    exact ⟨by rw [written_cons, List.append_assoc, ← parts], read⟩

/-! ## Literal text -/

/-- The characters that take the one behind them in literal text. -/
def literalTaking : List Char :=
  ['\\', '_', '*']

theorem literalFrom_unclosed {content : List Char} (h : '"' ∉ content) :
    literalFrom true content = content := by
  induction content with
  | nil => rfl
  | cons c content ih =>
    simp only [List.mem_cons, not_or] at h
    rw [literalFrom, if_neg (Ne.symm h.1), ih h.2]

theorem literalFrom_bare {c : Char} (h : c ∉ literalTaking) (hq : c ≠ '"') (rest : List Char) :
    literalFrom false (c :: rest) = c :: literalFrom false rest := by
  simp only [literalTaking, List.mem_cons, List.not_mem_nil, or_false, not_or] at h
  obtain ⟨backslash, underscore, asterisk⟩ := h
  exact literalFrom.eq_7 c rest hq (fun _ _ eq _ => backslash eq) (fun _ _ eq _ => underscore eq)
    fun _ _ eq _ => asterisk eq

theorem literalFrom_pair {mark : Char} (h : mark ∈ literalTaking) (c : Char) (rest : List Char) :
    literalFrom false (mark :: c :: rest) =
      (Lexeme.pair mark c).text ++ literalFrom false rest := by
  simp only [literalTaking, List.mem_cons, List.not_mem_nil, or_false] at h
  obtain rfl | rfl | rfl := h
  · simp [literalFrom, Lexeme.text]
  · simp [literalFrom, Lexeme.text]
  · simp [literalFrom, Lexeme.text]

/-- **Literal text is the text of its lexemes.** -/
theorem literalText_eq (code : List Char) :
    literalText code = (lexemes literalTaking code).flatMap Lexeme.text := by
  rw [literalText]
  induction code using lexeme_induction literalTaking with
  | nil => simp [literalFrom]
  | quoted content h rest ih =>
    simp [lexemes_quoted h, literalFrom, literalFrom_closed h, Lexeme.text, ih]
  | unclosed content h =>
    simp [lexemes_unclosed h, literalFrom, literalFrom_unclosed h, Lexeme.text]
  | pair mark h hq c rest ih => simp [lexemes_pair h hq, literalFrom_pair h, ih]
  | last mark h hq =>
    simp only [literalTaking, List.mem_cons, List.not_mem_nil, or_false] at h
    obtain rfl | rfl | rfl := h
    · simp [lexemes_last, literalFrom, Lexeme.text]
    · simp [lexemes_last, literalFrom, Lexeme.text]
    · simp [lexemes_last, literalFrom, Lexeme.text]
  | bare c h hq rest ih => simp [lexemes_bare h hq, literalFrom_bare h hq, Lexeme.text, ih]

/-! ## Date codes -/

/-- Quoted text is read up to its closing quote, or to the end of the code. -/
theorem literalFrom_within (rest : List Char) :
    literalFrom true rest =
      rest.takeWhile (· != '"') ++ literalFrom false ((rest.dropWhile (· != '"')).drop 1) := by
  induction rest with
  | nil => simp [literalFrom]
  | cons c rest ih =>
    by_cases quote : c = '"'
    · simp [literalFrom, quote]
    · simp [literalFrom, quote, ih]

/-- What a field is made of, in lower case, besides the long s. -/
def fieldLetters : List Char :=
  ['y', 'm', 'd', 'h', 's', 'a', 'p', '/', '.', '0']

/-- The characters of a field take no other and open no quote. -/
theorem ordinary_of_lower {d : Char} (h : d.toLower ∈ fieldLetters ∨ d = longS) :
    d ∉ literalTaking ∧ d ≠ '"' := by
  constructor
  · intro takes
    simp only [literalTaking, List.mem_cons, List.not_mem_nil, or_false] at takes
    obtain rfl | rfl | rfl := takes <;> revert h <;> decide
  · rintro rfl
    revert h
    decide

theorem runClass?_spec {c : Char} {inRun : Char → Bool} (h : runClass? c = some inRun) :
    inRun c ∧ ∀ d, inRun d → d.toLower ∈ fieldLetters ∨ d = longS := by
  have letter {l : Char} (hl : l ∈ fieldLetters) :
      ∀ d : Char, decide (d.toLower = l) = true → d.toLower ∈ fieldLetters ∨ d = longS := by
    intro d hd
    exact .inl (of_decide_eq_true hd ▸ hl)
  unfold runClass? at h
  split at h
  · next lower =>
    obtain rfl := Option.some.inj h
    exact ⟨decide_eq_true lower, letter (by decide)⟩
  · next lower =>
    obtain rfl := Option.some.inj h
    exact ⟨decide_eq_true lower, letter (by decide)⟩
  · next lower =>
    obtain rfl := Option.some.inj h
    exact ⟨decide_eq_true lower, letter (by decide)⟩
  · next lower =>
    obtain rfl := Option.some.inj h
    exact ⟨decide_eq_true lower, letter (by decide)⟩
  · split_ifs at h with second
    obtain rfl := Option.some.inj h
    refine ⟨second, ?_⟩
    intro d hd
    simp only [isSecondLetter, Bool.or_eq_true, decide_eq_true_eq] at hd
    obtain (rfl | rfl) | rfl := hd
    · exact .inl (by decide)
    · exact .inl (by decide)
    · exact .inr rfl

theorem ordinary_of_beginsWith {word text : List Char} (h : beginsWith word text)
    (hw : word.all fieldLetters.contains) :
    ∀ d ∈ text.take word.length, d ∉ literalTaking ∧ d ≠ '"' := by
  intro d hd
  have lower : (text.take word.length).map Char.toLower = word := by simpa [beginsWith] using h
  refine ordinary_of_lower (.inl (List.contains_iff_mem.1 (List.all_eq_true.1 hw _ ?_)))
  rw [← lower]
  exact List.mem_map_of_mem hd

theorem ordinary_of_fieldLength {c : Char} {rest : List Char} {n : Nat}
    (h : fieldLength (c :: rest) = n + 1) :
    ∀ d ∈ c :: rest.take n, d ∉ literalTaking ∧ d ≠ '"' := by
  unfold fieldLength at h
  dsimp only at h
  split at h
  · next inRun run =>
    have length : n = (rest.takeWhile inRun).length := by omega
    intro d hd
    rw [length, ← List.prefix_iff_eq_take.1 (List.takeWhile_prefix inRun)] at hd
    obtain ⟨first, letters⟩ := runClass?_spec run
    refine ordinary_of_lower (letters d ?_)
    obtain rfl | hd := List.mem_cons.1 hd
    · exact first
    · exact List.mem_takeWhile_imp hd
  · split_ifs at h with long short point
    · have length : n = 4 := by omega
      have all := ordinary_of_beginsWith long (by decide)
      simpa [length] using all
    · have length : n = 2 := by omega
      have all := ordinary_of_beginsWith short (by decide)
      simpa [length] using all
    · split at h
      · cases h
      · have length : n = (rest.takeWhile (· == '0')).length := by omega
        intro d hd
        rw [length, ← List.prefix_iff_eq_take.1 (List.takeWhile_prefix _)] at hd
        obtain rfl | hd := List.mem_cons.1 hd
        · exact ordinary_of_lower (.inl (point ▸ by decide))
        · have zero : d = '0' := by simpa using List.mem_takeWhile_imp hd
          exact ordinary_of_lower (.inl (zero ▸ by decide))

theorem literalFrom_ordinary {run : List Char} (h : ∀ d ∈ run, d ∉ literalTaking ∧ d ≠ '"')
    (rest : List Char) : literalFrom false (run ++ rest) = run ++ literalFrom false rest := by
  induction run with
  | nil => rfl
  | cons c run ih =>
    obtain ⟨⟨takes, quote⟩, others⟩ := List.forall_mem_cons.1 h
    rw [List.cons_append, literalFrom_bare takes quote, ih others, List.cons_append]

/-- **The parts of a date code have the text that it has as literal text.** -/
theorem flatMap_text_dateParts (code : List Char) :
    (dateParts code).flatMap DatePart.text = literalText code := by
  rw [literalText]
  induction code using dateParts.induct with
  | case1 => simp [dateParts, literalFrom]
  | case2 rest ih =>
    rw [dateParts, List.flatMap_cons, ih, literalFrom, literalFrom_within rest]
    rfl
  | case3 c rest ih => simp [dateParts, DatePart.text, literalFrom, ih]
  | case4 c rest ih => simp [dateParts, DatePart.text, literalFrom, ih]
  | case5 c rest ih => simp [dateParts, DatePart.text, literalFrom, ih]
  | case6 c rest quote backslash underscore asterisk none ih =>
    rw [dateParts.eq_6 c rest quote backslash underscore asterisk, none,
      literalFrom.eq_7 c rest quote backslash underscore asterisk, List.flatMap_cons, ih]
    rfl
  | case7 c rest quote backslash underscore asterisk n field ih =>
    have split : c :: rest = c :: rest.take n ++ rest.drop n := by simp
    rw [dateParts.eq_6 c rest quote backslash underscore asterisk, field]
    conv_rhs => rw [split, literalFrom_ordinary (ordinary_of_fieldLength field), ← ih]
    rfl

/-! ## Marks -/

/-- The character that hides the one behind it from the search for placeholders. -/
def escapeTaking : List Char :=
  ['\\']

theorem lexemes_backslash (c : Char) (rest : List Char) :
    lexemes escapeTaking ('\\' :: c :: rest) = .pair '\\' c :: lexemes escapeTaking rest :=
  lexemes_pair (by decide) (by decide) c rest

@[simp] theorem chars_append (ms ns : List Mark) : chars (ms ++ ns) = chars ms ++ chars ns := by
  simp [chars]

@[simp] theorem Lexeme.chars_marks (l : Lexeme) : chars l.marks = l.code := by
  cases l with
  | quoted content closed => simp [marks]
  | unclosed content unclosed => simpa [marks, code, chars] using chars_markFrom false content
  | pair mark taken => exact chars_marked _ _
  | bare c => exact chars_marked _ _

@[simp] theorem chars_flatMap_marks (ls : List Lexeme) :
    chars (ls.flatMap Lexeme.marks) = written ls := by
  induction ls with
  | nil => rfl
  | cons l ls ih => simp [ih]

/-- **The marks of a code are those of its lexemes.** -/
theorem marks_eq (code : List Char) :
    marks code = (lexemes escapeTaking code).flatMap Lexeme.marks := by
  rw [marks]
  induction code using lexeme_induction escapeTaking with
  | nil => simp [markFrom]
  | quoted content h rest ih =>
    have read := markFrom_code (.quoted content h) rest
    simpa [lexemes_quoted h, Piece.code, Piece.marks, Piece.isHidden, Lexeme.marks, Lexeme.code, ih]
      using read
  | unclosed content h => simp [lexemes_unclosed h, markFrom, h, Lexeme.marks]
  | pair mark h hq c rest ih =>
    obtain rfl : mark = '\\' := List.mem_singleton.1 h
    have read := markFrom_code (.escaped c) rest
    simpa [lexemes_backslash, Piece.code, Piece.marks, Piece.isHidden, Lexeme.marks, ih] using read
  | last mark h hq =>
    obtain rfl : mark = '\\' := List.mem_singleton.1 h
    simp [lexemes_last, markFrom, Lexeme.marks]
  | bare c h hq rest ih =>
    have backslash : c ≠ '\\' := List.ne_of_not_mem_cons h
    have visible : ∀ d ∈ [c], d ∉ ['"', '\\'] := by simpa using ⟨hq, backslash⟩
    have read := markFrom_plain visible rest
    simpa [lexemes_bare h hq, Lexeme.marks, ih] using read

/-! ## The two readings -/

namespace Lexeme

/-- An underscore or an asterisk that takes a quote or a backslash puts the two readings out of
step. -/
def IsSteady : Lexeme → Prop
  | pair mark taken => mark = '\\' ∨ taken ∉ ['"', '\\']
  | _ => True

instance : DecidablePred IsSteady
  | quoted _ _ => .isTrue trivial
  | unclosed _ _ => .isTrue trivial
  | pair mark taken => inferInstanceAs (Decidable (mark = '\\' ∨ taken ∉ ['"', '\\']))
  | bare _ => .isTrue trivial

/-- A lexeme of literal text as it is read when only backslashes take a character. -/
def parts : Lexeme → List Lexeme
  | pair mark taken => if mark = '\\' then [pair mark taken] else [bare mark, bare taken]
  | l => [l]

@[simp] theorem written_parts (l : Lexeme) : written l.parts = l.code := by
  cases l with
  | quoted content closed => simp [parts]
  | unclosed content unclosed => simp [parts]
  | pair mark taken => by_cases h : mark = '\\' <;> simp [parts, h, code]
  | bare c => simp [parts]

end Lexeme

@[simp] theorem written_flatMap_parts (ls : List Lexeme) :
    written (ls.flatMap Lexeme.parts) = written ls := by
  induction ls with
  | nil => rfl
  | cons l ls ih => simp [ih]

theorem lexemes_parts {l : Lexeme} {rest : List Char} (h : l.Begins literalTaking rest)
    (steady : l.IsSteady) :
    lexemes escapeTaking (l.code ++ rest) = l.parts ++ lexemes escapeTaking rest := by
  cases l with
  | quoted content closed =>
    simp [Lexeme.code, Lexeme.parts, lexemes_quoted closed]
  | unclosed content unclosed =>
    obtain rfl : rest = [] := h
    simp [Lexeme.code, Lexeme.parts, lexemes_unclosed unclosed]
  | pair mark c =>
    by_cases backslash : mark = '\\'
    · simp [Lexeme.code, Lexeme.parts, backslash, lexemes_backslash]
    · have taken : c ∉ ['"', '\\'] := steady.resolve_left backslash
      simp only [List.mem_cons, List.not_mem_nil, or_false, not_or] at taken
      have first : mark ∉ escapeTaking := fun inside => backslash (List.mem_singleton.1 inside)
      have second : c ∉ escapeTaking := fun inside => taken.2 (List.mem_singleton.1 inside)
      simp [Lexeme.code, Lexeme.parts, backslash, lexemes_bare first h.2,
        lexemes_bare second taken.1]
  | bare c =>
    obtain ⟨quote, last⟩ := h
    by_cases backslash : c = '\\'
    · obtain rfl : rest = [] := last (by simp [literalTaking, backslash])
      simp [Lexeme.code, Lexeme.parts, lexemes_last quote]
    · have other : c ∉ escapeTaking := fun inside => backslash (List.mem_singleton.1 inside)
      simp [Lexeme.code, Lexeme.parts, lexemes_bare other quote]

/-- **The readings go on alike behind steady lexemes.** -/
theorem lexemes_of_steady {code : List Char} {ls ls' : List Lexeme}
    (h : lexemes literalTaking code = ls ++ ls') (steady : ∀ l ∈ ls, l.IsSteady) :
    lexemes escapeTaking code = ls.flatMap Lexeme.parts ++ lexemes escapeTaking (written ls') := by
  induction ls generalizing code with
  | nil =>
    have whole : written ls' = code := by
      rw [← written_lexemes literalTaking code, h, List.nil_append]
    simp [whole]
  | cons l ls ih =>
    obtain ⟨rest, rfl, behind, begins⟩ := lexemes_eq_cons h
    obtain ⟨first, others⟩ := List.forall_mem_cons.1 steady
    rw [lexemes_parts begins first, ih behind.symm others, List.flatMap_cons, List.append_assoc]

end SlideMerge.Format
