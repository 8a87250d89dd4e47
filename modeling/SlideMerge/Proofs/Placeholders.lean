import SlideMerge.Proofs.Display
import SlideMerge.Proofs.Search

/-!
# Codes with and without placeholders

Whether a section prints anything of a number depends on one thing: whether the search sees a
placeholder of a digit in it (`HasPlaceholder`).

* **With one** something is found, if not before then by the search for digits
  (`leftmost_readFixed_ne_none`). A section of which only that search finds something
  (`ShowsDigits`) prints the digits of the number.
* **Without one** nothing is taken (`hasPlaceholder_of_takes`), and the section is its own literal
  text unless it stands for the general format.

Literal text and the search read a section in two ways, but where all lexemes are harmless the
search sees just the placeholders that stand by themselves (`hasPlaceholder_iff`).

Main result: `render_unplaced`.
-/

namespace SlideMerge.Format

open Numeric Text

/-! ## Placeholders -/

/-- The search sees a placeholder of a digit in the section. -/
def HasPlaceholder (sec : List Char) : Prop :=
  ∃ m ∈ marks sec, m.isPlaceholder

instance : DecidablePred HasPlaceholder :=
  fun sec => inferInstanceAs (Decidable (∃ m ∈ marks sec, m.isPlaceholder = true))

/-- A section that stands for the general format: a blank one, or its keyword. -/
def standsForGeneral (sec : List Char) : Bool :=
  isBlankText sec || isGeneral (trim sec)

section Placeholder

variable {sec : List Char}

theorem char_mem_of_mem_marks {m : Mark} (h : m ∈ marks sec) : m.char ∈ sec := by
  have inChars : m.char ∈ chars (marks sec) := List.mem_map_of_mem h
  rwa [marks, chars_markFrom] at inChars

theorem HasPlaceholder.exists_mem (h : HasPlaceholder sec) :
    ∃ c ∈ sec, isBlank c = false ∧ c ≠ '@' ∧ c.toLower ∉ generalLetters := by
  obtain ⟨m, inSec, place⟩ := h
  have digit : m.char ∈ ['0', '#', '?'] := isDigitPlace_iff.1 (Bool.and_eq_true_iff.1 place).2
  refine ⟨m.char, char_mem_of_mem_marks inSec, ?_⟩
  simp only [List.mem_cons, List.not_mem_nil, or_false] at digit
  rcases digit with zero | sharp | question
  · rw [zero]
    decide
  · rw [sharp]
    decide
  · rw [question]
    decide

theorem HasPlaceholder.not_standsForGeneral (h : HasPlaceholder sec) :
    standsForGeneral sec = false := by
  obtain ⟨c, inSec, solid, -, other⟩ := h.exists_mem
  exact not_general_of_mem inSec solid other

theorem exists_placeholder_of_readFixed {ms : List Mark} {found : FixedPattern × List Mark}
    (h : readFixed ms = some found) : ∃ m ∈ ms, m.isPlaceholder := by
  cases ms with
  | nil => cases h
  | cons m rest =>
    rw [readFixed] at h
    split_ifs at h with place point
    · exact ⟨m, List.mem_cons_self, place⟩
    · rw [Bool.and_eq_true] at point
      obtain ⟨d, first, place⟩ := (Option.any_eq_true _ _).1 point.2
      exact ⟨d, List.mem_cons_of_mem m (List.mem_of_mem_head? first), place⟩

theorem exists_placeholder_of_readScientific {ms : List Mark}
    {found : ScientificPattern × List Mark}
    (h : readScientific ms = some found) : ∃ m ∈ ms, m.isPlaceholder := by
  obtain ⟨m, e, d, inside, place, -⟩ := sublist_of_readScientific h
  exact ⟨m, inside.subset List.mem_cons_self, place⟩

/-- Whatever is found by reading a placeholder is found in a section that has one. -/
theorem hasPlaceholder_of_leftmost {α : Type} {p : List Mark → Option α}
    {before : List Mark} {a : α}
    (hp : ∀ ms a, p ms = some a → ∃ m ∈ ms, m.isPlaceholder)
    (found : leftmost p (marks sec) = some (before, a)) : HasPlaceholder sec := by
  obtain ⟨tail, parts, read⟩ := leftmost_eq_some found
  obtain ⟨m, inTail, place⟩ := hp tail a read
  exact ⟨m, parts ▸ List.mem_append_right before inTail, place⟩

/-- **What is taken has a placeholder.** -/
theorem hasPlaceholder_of_takes {before span after : List Mark} (h : Takes sec before span after) :
    HasPlaceholder sec := by
  cases h with
  | exponent parts found =>
    exact hasPlaceholder_of_leftmost (fun _ _ => exists_placeholder_of_readScientific) found
  | fraction parts noExponent found =>
    obtain ⟨m, slash, last, inside, place, -⟩ := found.sublist
    have inSpan : m ∈ span := inside.subset List.mem_cons_self
    exact ⟨m, parts ▸ List.mem_append_right _ (List.mem_append_left _ inSpan), place⟩
  | digits parts noExponent noFraction found =>
    exact hasPlaceholder_of_leftmost (fun _ _ => exists_placeholder_of_readFixed) found

theorem leftmost_ne_none {α : Type} {p : List Mark → Option α} {tail : List Mark}
    (h : p tail ≠ none)
    (before : List Mark) : leftmost p (before ++ tail) ≠ none := by
  induction before with
  | nil =>
    cases tail with
    | nil => simpa [leftmost] using h
    | cons m rest =>
      obtain ⟨a, found⟩ := Option.ne_none_iff_exists'.1 h
      simp [leftmost, found]
  | cons m before ih =>
    rw [List.cons_append, leftmost]
    split
    · simp
    · simpa using ih

/-- **Where a placeholder is, the search for digits finds something.** -/
theorem leftmost_readFixed_ne_none (h : HasPlaceholder sec) :
    leftmost readFixed (marks sec) ≠ none := by
  obtain ⟨m, inSec, place⟩ := h
  obtain ⟨before, rest, parts⟩ := List.append_of_mem inSec
  rw [parts]
  exact leftmost_ne_none (readFixed_ne_none place rest) before

/-- **A section without a placeholder is literal text,** unless it stands for the general format. -/
theorem formatSection_unplaced (h : ¬ HasPlaceholder sec) (value : Number) (negative : Bool) :
    formatSection sec value negative =
      if standsForGeneral sec then generalText value else .ok (literalText sec) :=
  formatSection_of_nothing_taken (fun _ _ _ taken => h (hasPlaceholder_of_takes taken)) value
    negative

end Placeholder

/-! ## Sections that show digits -/

/-- A section in which neither an exponent nor a fraction is found, but digits with this pattern. -/
structure ShowsDigits (sec : List Char) (before : List Mark) (pattern : FixedPattern)
    (after : List Mark) : Prop where
  noExponent : leftmost readScientific (marks sec) = none
  noFraction : hasFraction (marks sec) = false
  found : leftmost readFixed (marks sec) = some (before, pattern, after)

instance (sec : List Char) (before : List Mark) (pattern : FixedPattern) (after : List Mark) :
    Decidable (ShowsDigits sec before pattern after) :=
  decidable_of_iff (leftmost readScientific (marks sec) = none ∧ hasFraction (marks sec) = false ∧
    leftmost readFixed (marks sec) = some (before, pattern, after))
    ⟨fun h => ⟨h.1, h.2.1, h.2.2⟩, fun h => ⟨h.noExponent, h.noFraction, h.found⟩⟩

namespace ShowsDigits

variable {sec : List Char} {before after : List Mark} {pattern : FixedPattern}
  (h : ShowsDigits sec before pattern after)

include h

theorem hasPlaceholder : HasPlaceholder sec :=
  hasPlaceholder_of_leftmost (fun _ _ => exists_placeholder_of_readFixed) h.found

theorem formatSection (value : Number) (negative : Bool) :
    formatSection sec value negative =
      formatFixed pattern (chars before) (chars after) negative value := by
  have special : (isBlankText sec || isGeneral (trim sec)) = false :=
    h.hasPlaceholder.not_standsForGeneral
  simp [Format.formatSection, special, h.noExponent, h.noFraction, h.found]

end ShowsDigits

/-! ## Placeholders among lexemes -/

section Lexemes

variable {sec : List Char}

theorem begins_of_mem_lexemes {taking : List Char} {l : Lexeme} (h : l ∈ lexemes taking sec) :
    ∃ rest, l.Begins taking rest := by
  obtain ⟨front, back, read⟩ := List.append_of_mem h
  obtain ⟨rest, -, -, begins⟩ := lexemes_eq_cons (lexemes_eq_append read).2
  exact ⟨rest, begins⟩

/-- The search sees a placeholder in a harmless lexeme if that stands by itself and is one. -/
theorem Lexeme.exists_placeholder_iff {l : Lexeme} (inSec : l ∈ lexemes literalTaking sec)
    (harmless : l.IsHarmless) :
    (∃ m ∈ l.parts.flatMap Lexeme.marks, m.isPlaceholder) ↔ ∃ c, l = .bare c ∧ isDigitPlace c := by
  -- quoted and escaped text has the marks of a piece, and a piece shows no placeholder
  have ofPiece {p : Piece} {l : Lexeme} (h : l.parts.flatMap Lexeme.marks = p.marks) :
      ¬ ∃ m ∈ l.parts.flatMap Lexeme.marks, m.isPlaceholder := by
    rintro ⟨m, inPiece, place⟩
    rw [h] at inPiece
    simp [isPlaceholder_of_mem_marks inPiece] at place
  cases l with
  | quoted content closed =>
    have same : [Lexeme.quoted content closed].flatMap Lexeme.marks =
        (Piece.quoted content closed).marks := List.flatMap_singleton _ _
    exact iff_of_false (ofPiece same) (by simp)
  | unclosed => exact harmless.elim
  | pair mark c =>
    by_cases backslash : mark = '\\'
    · subst backslash
      have same : [Lexeme.pair '\\' c].flatMap Lexeme.marks = (Piece.escaped c).marks :=
        List.flatMap_singleton _ _
      exact iff_of_false (ofPiece same) (by simp)
    · obtain ⟨rest, takes, -⟩ := begins_of_mem_lexemes inSec
      have other := harmless.resolve_left backslash
      have first : isDigitPlace mark = false := by
        simp only [literalTaking, List.mem_cons, List.not_mem_nil, or_false] at takes
        rcases takes with rfl | rfl | rfl <;> rfl
      have second : isDigitPlace c = false := by
        rw [← Bool.not_eq_true, isDigitPlace_iff]
        simp only [List.mem_cons, not_or] at other ⊢
        tauto
      simp [Lexeme.parts, backslash, Lexeme.marks, first, second]
  | bare c => simp [Lexeme.parts, Lexeme.marks]

/-- **Among harmless lexemes the search sees the placeholders that stand by themselves,** and no
other ones. -/
theorem hasPlaceholder_iff (harmless : ∀ l ∈ lexemes literalTaking sec, l.IsHarmless) :
    HasPlaceholder sec ↔ ∃ c, .bare c ∈ lexemes literalTaking sec ∧ isDigitPlace c := by
  have steady : ∀ l ∈ lexemes literalTaking sec, l.IsSteady := fun l hl => (harmless l hl).isSteady
  have read : lexemes escapeTaking sec = (lexemes literalTaking sec).flatMap Lexeme.parts := by
    simpa using lexemes_of_steady (List.append_nil _).symm steady
  rw [HasPlaceholder, marks_eq, read, List.flatMap_assoc]
  constructor
  · rintro ⟨m, inMarks, place⟩
    obtain ⟨l, inSec, inLexeme⟩ := List.mem_flatMap.1 inMarks
    obtain ⟨c, rfl, digit⟩ :=
      (Lexeme.exists_placeholder_iff inSec (harmless l inSec)).1 ⟨m, inLexeme, place⟩
    exact ⟨c, inSec, digit⟩
  · rintro ⟨c, inSec, digit⟩
    obtain ⟨m, inLexeme, place⟩ :=
      (Lexeme.exists_placeholder_iff inSec (harmless _ inSec)).2 ⟨c, rfl, digit⟩
    exact ⟨m, List.mem_flatMap.2 ⟨_, inSec, inLexeme⟩, place⟩

theorem mem_literalText_of_bare {c : Char} (h : .bare c ∈ lexemes literalTaking sec) :
    c ∈ literalText sec := by
  rw [literalText_eq]
  exact List.mem_flatMap.2 ⟨_, h, List.mem_singleton_self c⟩

end Lexemes

end SlideMerge.Format

namespace SlideMerge.Sheet

open Numeric Format Text

/-! ## Numbers among values -/

/-- **A number is rendered as such,** unless it is a truth value, which is shown by its name. -/
theorem render_toValue {number : Number} (h : number.isLogical = false) (format : Option String) :
    render number.toValue format =
      String.ofList <$> renderNumber number (displayCode format).toList := by
  cases number with
  | logical => cases h
  | integer => rfl
  | real => rfl

/-- A code is no name of the general format if it has a character that none of the names has. -/
theorem showsGeneral_eq_false {code : List Char} {c : Char} (h : c ∈ code) (sign : c ≠ '@')
    (other : c.toLower ∉ generalLetters) : showsGeneral code = false := by
  have noSign : (code == ['@']) = false := by
    rw [beq_eq_false_iff_ne]
    rintro rfl
    exact sign (List.mem_singleton.1 h)
  rw [showsGeneral, noSign, isGeneral_eq_false h other]
  rfl

theorem renderNumber_eq {number : Number} {code : List Char} (special : showsGeneral code = false)
    (exponent : formatNumber number code ≠ .error .noExponent) :
    renderNumber number code = formatNumber number code := by
  rw [renderNumber, if_neg (by simp [special])]
  split
  · next failed => exact absurd failed exponent
  · rfl

/-! ## Codes without placeholders -/

/-- **A code of one section without a placeholder shows all numbers alike,** as its literal text,
unless it stands for the general format. -/
theorem renderNumber_unplaced {code : List Char} (single : splitSections code = [code])
    (unplaced : ¬ HasPlaceholder (stripBrackets code)) (number : Number) :
    renderNumber number code =
      if showsGeneral code || standsForGeneral (stripBrackets code) then generalText number
        else .ok (literalText (stripBrackets code)) := by
  have printed := formatSection_unplaced unplaced number number.isNegative
  rw [← formatNumber_single single] at printed
  by_cases special : showsGeneral code
  · simp [renderNumber, special]
  · rw [Bool.not_eq_true] at special
    have exponent : formatNumber number code ≠ .error .noExponent := by
      rw [printed]
      split_ifs
      · exact fun h => absurd (generalText_eq_error h).1 (by decide)
      · exact error_ne_ok.symm
    rw [renderNumber_eq special exponent, printed, special, Bool.false_or]

theorem exists_integer_not_shown (text : List Char) :
    ∃ n : Int, ¬ formatGeneral (.integer n) <:+: text := by
  let n : Nat := 10 ^ (text.length + 1)
  refine ⟨n, fun inside => ?_⟩
  have written : formatGeneral (.integer n) = decimal n := decimalInt_natCast n
  have short : (decimal n).length ≤ text.length + 1 := by
    rw [← written]
    exact inside.length_le.trans (Nat.le_succ _)
  have small : n < n := (Nat.length_toDigits_le_iff (by decide) (Nat.succ_pos _)).1 short
  exact absurd small (lt_irrefl n)

/-- **A code without a placeholder shows itself.** Where all lexemes of a section are harmless, the
search sees a placeholder only if one stands by itself. A code of one section in which it sees none
shows each number that can be written in the general format if it stands for that: as `@`, as a
blank section or as the keyword alone. Otherwise it shows its own literal text, with each letter
that stands by itself, whatever the number is. So the general format of all numbers is shown only by
a code that stands for it. -/
theorem render_unplaced {format : Option String}
    (single : splitSections (displayCode format).toList = [(displayCode format).toList]) :
    let code := (displayCode format).toList
    let sec := stripBrackets code
    ((∀ l ∈ lexemes literalTaking sec, l.IsHarmless) →
      (HasPlaceholder sec ↔ ∃ c, .bare c ∈ lexemes literalTaking sec ∧ isDigitPlace c)) ∧
    (∀ c, .bare c ∈ lexemes literalTaking sec → c ∈ literalText sec) ∧
    (¬ HasPlaceholder sec →
      (∀ number : Number, number.isLogical = false →
        render number.toValue format = String.ofList <$>
          (if showsGeneral code || standsForGeneral sec then generalText number
            else .ok (literalText sec))) ∧
      ((∀ (number : Number) (text : String), number.isLogical = false →
          render number.toValue format = .ok text →
            formatGeneral number.toValue <:+: text.toList) ↔
        showsGeneral code || standsForGeneral sec)) := by
  intro code sec
  refine ⟨hasPlaceholder_iff, fun c => mem_literalText_of_bare, fun unplaced => ?_⟩
  have shown (number : Number) (h : number.isLogical = false) :
      render number.toValue format = String.ofList <$>
        (if showsGeneral code || standsForGeneral sec then generalText number
          else .ok (literalText sec)) := by
    rw [render_toValue h, renderNumber_unplaced single unplaced]
  refine ⟨shown, ?_, ?_⟩
  · intro all
    by_contra special
    obtain ⟨n, missing⟩ := exists_integer_not_shown (literalText sec)
    have text := shown (.integer n) rfl
    rw [if_neg special] at text
    have inside := all (.integer n) _ rfl text
    rw [String.toList_ofList] at inside
    exact missing inside
  · intro special number text h rendered
    rw [shown number h, if_pos special] at rendered
    obtain ⟨general, written, rfl⟩ := map_eq_ok.1 rendered
    obtain ⟨-, rfl⟩ := generalText_eq_ok.1 written
    exact ⟨[], [], by simp⟩

/-- The keyword of the general format next to a unit is literal text. -/
theorem render_unplaced_unit :
    splitSections (displayCode (some "[Red]General \"kg\"")).toList =
        [(displayCode (some "[Red]General \"kg\"")).toList] ∧
      render (.integer 5) (some "[Red]General \"kg\"") = .ok "General kg" ∧
      render (.real (Double.ofRat (1 / 2) false)) (some "[Red]General \"kg\"") =
        .ok "General kg" := by
  have single : splitSections (displayCode (some "[Red]General \"kg\"")).toList =
      [(displayCode (some "[Red]General \"kg\"")).toList] := by decide +kernel
  have unplaced :
      ¬ HasPlaceholder (stripBrackets (displayCode (some "[Red]General \"kg\"")).toList) := by
    decide +kernel
  obtain ⟨-, -, alike⟩ := render_unplaced single
  have shown := (alike unplaced).1
  refine ⟨single, ?_, ?_⟩
  · have text := shown (.integer 5) rfl
    exact text.trans (by decide +kernel)
  · have text := shown (.real (Double.ofRat (1 / 2) false)) rfl
    exact text.trans (by decide +kernel)

/-- A date code shows its own letters in place of a number. -/
theorem exists_code_echoed :
    ∃ format : String,
      let code := (displayCode (some format)).toList
      let ls := lexemes literalTaking (stripBrackets code)
      splitSections code = [code] ∧ isBlankText code = false ∧
        (∀ l ∈ ls, l.IsHarmless) ∧ (∀ c, .bare c ∈ ls → isDigitPlace c = false) ∧ .bare 'y' ∈ ls ∧
        render (.integer 5) (some format) = .ok format ∧
        ¬ formatGeneral (.integer 5) <:+: format.toList := by
  have read : lexemes literalTaking (stripBrackets (displayCode (some "yyyy")).toList) =
      List.replicate 4 (.bare 'y') := by decide +kernel
  refine ⟨"yyyy", by decide +kernel, by decide +kernel, by decide +kernel, ?_, by decide +kernel,
    by decide +kernel, by decide +kernel⟩
  intro c inCode
  rw [read] at inCode
  obtain rfl := Lexeme.bare.inj (List.eq_of_mem_replicate inCode)
  rfl

end SlideMerge.Sheet
