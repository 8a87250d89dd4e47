import Mathlib.Algebra.Group.Nat.Even
import Mathlib.Data.List.Induction
import SlideMerge.Proofs.Lexemes
import SlideMerge.Proofs.Sections

/-!
# Which semicolons separate sections

For the splitter a backslash protects the next character between quotes too. For every other reader
quoted text ends at the next quote, whatever stands before it, and a semicolon that is neither
quoted nor escaped separates (`literalSections`).

**Agreement.** Both pass over the same lexemes, as long as each quoted text ends in an even number
of backslashes: then the splitter is not waiting for an escaped character when the closing quote
comes (`splitSections_eq`).

**Divergence.** Where quoted text ends in an odd number of backslashes, the splitter takes the
closing quote for an escaped one and stays between quotes, so a semicolon right behind it separates
for the other readers only (`exists_apart`).

Main result: `splitSections_eq_iff`, with `literalSections_eq_marks` for the reader that looks for
placeholders.
-/

namespace SlideMerge.Format

open Text

/-! ## Sections as other readers see them -/

/-- A semicolon by itself. -/
def Lexeme.separates : Lexeme → Bool
  | bare c => c == ';'
  | _ => false

/-- The code, cut at the semicolons that are neither quoted nor escaped. -/
def literalSections (code : List Char) : List (List Char) :=
  ((lexemes escapeTaking code).splitOnP Lexeme.separates).map written

theorem map_written_modifyHead (l : Lexeme) (cut : List (List Lexeme)) :
    (cut.modifyHead (l :: ·)).map written = (cut.map written).modifyHead (l.code ++ ·) := by
  cases cut with
  | nil => rfl
  | cons ls cut => simp

theorem literalSections_append {l : Lexeme} {rest : List Char}
    (read : lexemes escapeTaking (l.code ++ rest) = l :: lexemes escapeTaking rest)
    (inside : l.separates = false) :
    literalSections (l.code ++ rest) = (literalSections rest).modifyHead (l.code ++ ·) := by
  rw [literalSections, read, List.splitOnP_cons_eq_if_modifyHead, inside]
  exact map_written_modifyHead l _

theorem literalSections_separated (rest : List Char) :
    literalSections (';' :: rest) = [] :: literalSections rest := by
  have read : lexemes escapeTaking (';' :: rest) = .bare ';' :: lexemes escapeTaking rest :=
    lexemes_bare (by decide) (by decide) rest
  rw [literalSections, read, List.splitOnP_cons_eq_if_modifyHead]
  simp [Lexeme.separates, literalSections]

theorem splitSections_separated (rest : List Char) :
    splitSections (';' :: rest) = [] :: splitSections rest := by
  have empty : IsClosed [] := by decide
  have separated := sections_separated empty rest
  rw [List.nil_append] at separated
  rw [splitSections, separated]

/-! ## Quoted text -/

/-- Whether the splitter, between quotes, holds the character behind the text for escaped. -/
def escapedAfter (escaped : Bool) (content : List Char) : Bool :=
  content.foldl (fun escaped c => !escaped && c == '\\') escaped

/-- The number of backslashes that the text ends in. -/
def trailingBackslashes (content : List Char) : Nat :=
  (content.reverse.takeWhile (· == '\\')).length

theorem trailingBackslashes_concat (content : List Char) (c : Char) :
    trailingBackslashes (content ++ [c]) =
      if c = '\\' then trailingBackslashes content + 1 else 0 := by
  by_cases backslash : c = '\\'
  · simp [trailingBackslashes, backslash]
  · simp [trailingBackslashes, backslash]

theorem escapedAfter_iff (content : List Char) :
    escapedAfter false content ↔ Odd (trailingBackslashes content) := by
  induction content using List.reverseRecOn with
  | nil => simp [escapedAfter, trailingBackslashes]
  | append_singleton content c ih =>
    have last : escapedAfter false (content ++ [c]) =
        (!escapedAfter false content && c == '\\') := by
      simp [escapedAfter]
    rw [last, trailingBackslashes_concat]
    by_cases backslash : c = '\\'
    · simp [backslash, Nat.odd_add_one, ← ih]
    · simp [backslash]

theorem splitFrom_within {content : List Char} (h : '"' ∉ content) (escaped : Bool)
    (rest : List Char) :
    splitFrom true escaped (content ++ rest) =
      (content ++ (splitFrom true (escapedAfter escaped content) rest).1,
        (splitFrom true (escapedAfter escaped content) rest).2) := by
  induction content generalizing escaped with
  | nil => rfl
  | cons c content ih =>
    rw [List.mem_cons, not_or] at h
    have quote : c ≠ '"' := Ne.symm h.1
    have next (escaped : Bool) := ih h.2 escaped
    rw [List.cons_append, splitFrom]
    by_cases waiting : escaped
    · simp [waiting, next, consFirst, escapedAfter]
    · by_cases backslash : c = '\\'
      · simp [waiting, backslash, next, consFirst, escapedAfter]
      · have other : (c == '\\') = false := by simpa using backslash
        simp [waiting, backslash, quote, other, next, consFirst, escapedAfter]

theorem splitSections_quoted {content : List Char} (h : '"' ∉ content)
    (even : Even (trailingBackslashes content)) (rest : List Char) :
    splitSections ('"' :: (content ++ '"' :: rest)) =
      (splitSections rest).modifyHead ('"' :: (content ++ ['"']) ++ ·) := by
  have free : escapedAfter false content = false := by
    rw [← Bool.not_eq_true, escapedAfter_iff, Nat.not_odd_iff_even]
    exact even
  have inside := splitFrom_within h false ('"' :: rest)
  rw [free] at inside
  simp [splitSections, sections, splitFrom, consFirst, inside]

theorem splitSections_escapedQuote {content : List Char} (h : '"' ∉ content)
    (odd : Odd (trailingBackslashes content)) :
    splitSections ('"' :: (content ++ ['"', ';'])) = ['"' :: (content ++ ['"', ';'])] := by
  have waiting : escapedAfter false content = true := (escapedAfter_iff content).2 odd
  have inside := splitFrom_within h false ['"', ';']
  rw [waiting] at inside
  simp [splitSections, sections, splitFrom, consFirst, inside]

theorem splitSections_unclosed {content : List Char} (h : '"' ∉ content) :
    splitSections ('"' :: content) = ['"' :: content] := by
  have inside := splitFrom_within h false []
  rw [List.append_nil] at inside
  simp [splitSections, sections, splitFrom, consFirst, inside]

/-! ## Agreement -/

/-- Quoted text that ends in an even number of backslashes. -/
def Lexeme.EndsEven : Lexeme → Prop
  | quoted content _ => Even (trailingBackslashes content)
  | _ => True

theorem isClosed_pair (c : Char) : IsClosed ['\\', c] := by
  simp [IsClosed, isClosedFrom]

theorem isClosed_bare {c : Char} (backslash : c ≠ '\\') (quote : c ≠ '"') (semicolon : c ≠ ';') :
    IsClosed [c] := by
  simp [IsClosed, isClosedFrom, backslash, quote, semicolon]

theorem modifyHead_append_inj (part : List Char) {secs secs' : List (List Char)} :
    secs.modifyHead (part ++ ·) = secs'.modifyHead (part ++ ·) ↔ secs = secs' := by
  cases secs <;> cases secs' <;> simp

theorem agree_iff {l : Lexeme} {rest : List Char} (begins : l.Begins escapeTaking rest)
    (even : l.EndsEven) :
    splitSections (l.code ++ rest) = literalSections (l.code ++ rest) ↔
      splitSections rest = literalSections rest := by
  have empty : splitSections [] = literalSections [] := by
    simp [splitSections, sections, splitFrom, literalSections]
  cases l with
  | quoted content closed =>
    have whole : (Lexeme.quoted content closed).code ++ rest = '"' :: (content ++ '"' :: rest) := by
      simp [Lexeme.code]
    have read : lexemes escapeTaking ((Lexeme.quoted content closed).code ++ rest) =
        .quoted content closed :: lexemes escapeTaking rest := whole ▸ lexemes_quoted closed rest
    rw [literalSections_append read rfl, whole, splitSections_quoted closed even]
    exact modifyHead_append_inj _
  | unclosed content unclosed =>
    obtain rfl : rest = [] := begins
    have alone : literalSections ('"' :: content) = ['"' :: content] := by
      simp [literalSections, lexemes_unclosed unclosed, List.splitOnP_cons_eq_if_modifyHead,
        Lexeme.separates, Lexeme.code]
    rw [List.append_nil, Lexeme.code, splitSections_unclosed unclosed, alone]
    exact iff_of_true rfl empty
  | pair mark c =>
    obtain rfl : mark = '\\' := List.mem_singleton.1 begins.1
    have cut := literalSections_append (l := .pair '\\' c) (lexemes_backslash c rest) rfl
    rw [cut, Lexeme.code, splitSections_append (isClosed_pair c)]
    exact modifyHead_append_inj _
  | bare c =>
    obtain ⟨quote, last⟩ := begins
    by_cases backslash : c = '\\'
    · obtain rfl : rest = [] := last (List.mem_singleton.2 backslash)
      have alone : splitSections ['\\'] = literalSections ['\\'] := by
        simp [splitSections, sections, splitFrom, consFirst, literalSections, lexemes_last,
          List.splitOnP_cons_eq_if_modifyHead, Lexeme.separates, Lexeme.code]
      subst backslash
      exact iff_of_true alone empty
    · by_cases semicolon : c = ';'
      · subst semicolon
        simp [Lexeme.code, splitSections_separated, literalSections_separated]
      · have takes : c ∉ escapeTaking := fun inside => backslash (List.mem_singleton.1 inside)
        have inside : (Lexeme.bare c).separates = false := by
          simpa [Lexeme.separates] using semicolon
        have cut := literalSections_append (lexemes_bare takes quote rest) inside
        rw [cut, Lexeme.code, splitSections_append (isClosed_bare backslash quote semicolon)]
        exact modifyHead_append_inj _

/-- **Both cut a code alike if its quoted text ends evenly.** -/
theorem splitSections_eq {code : List Char} (h : ∀ l ∈ lexemes escapeTaking code, l.EndsEven) :
    splitSections code = literalSections code := by
  induction read : lexemes escapeTaking code generalizing code with
  | nil =>
    have empty : code = [] := by rw [← written_lexemes escapeTaking code, read, written_nil]
    simp [empty, splitSections, sections, splitFrom, literalSections]
  | cons l ls ih =>
    obtain ⟨rest, rfl, behind, begins⟩ := lexemes_eq_cons read
    rw [read] at h
    obtain ⟨even, others⟩ := List.forall_mem_cons.1 h
    rw [behind] at others
    exact (agree_iff begins even).2 (ih others behind.symm)

/-- Breaking a code off makes no quoted text of what was none. -/
theorem endsEven_of_init {init code : List Char} (h : ∀ l ∈ lexemes escapeTaking code, l.EndsEven)
    (before : init <+: code) : ∀ l ∈ lexemes escapeTaking (init ++ [';']), l.EndsEven := by
  obtain ⟨more, rfl⟩ := before
  induction init using lexeme_induction escapeTaking with
  | nil => simp [lexemes_last, Lexeme.EndsEven]
  | quoted content closed rest ih =>
    simp only [List.cons_append, List.append_assoc, lexemes_quoted closed] at h ⊢
    obtain ⟨even, others⟩ := List.forall_mem_cons.1 h
    exact List.forall_mem_cons.2 ⟨even, ih others⟩
  | unclosed content unclosed =>
    have within : '"' ∉ content ++ [';'] := by simpa using unclosed
    simp [lexemes_unclosed within, Lexeme.EndsEven]
  | pair mark takes quote c rest ih =>
    simp only [List.cons_append, lexemes_pair takes quote] at h ⊢
    obtain ⟨even, others⟩ := List.forall_mem_cons.1 h
    exact List.forall_mem_cons.2 ⟨even, ih others⟩
  | last mark takes quote => simp [lexemes_pair takes quote, Lexeme.EndsEven]
  | bare c takes quote rest ih =>
    simp only [List.cons_append, lexemes_bare takes quote] at h ⊢
    obtain ⟨even, others⟩ := List.forall_mem_cons.1 h
    exact List.forall_mem_cons.2 ⟨even, ih others⟩

/-! ## Divergence -/

theorem Lexeme.Begins.before {l : Lexeme} {taking rest : List Char} (h : l.Begins taking rest)
    (more : rest ≠ []) (rest' : List Char) : l.Begins taking rest' := by
  cases l with
  | quoted content closed => trivial
  | unclosed content unclosed => exact absurd h more
  | pair mark c => exact h
  | bare c => exact ⟨h.1, fun takes => absurd (h.2 takes) more⟩

/-- A semicolon right behind a closing quote separates, but not if the quote is taken for an escaped
one. -/
theorem apart_of_not_endsEven {l : Lexeme} (h : ¬ l.EndsEven) :
    splitSections (l.code ++ [';']) ≠ literalSections (l.code ++ [';']) := by
  cases l with
  | quoted content closed =>
    have odd : Odd (trailingBackslashes content) := Nat.not_even_iff_odd.1 h
    have whole : (Lexeme.quoted content closed).code ++ [';'] = '"' :: (content ++ ['"', ';']) := by
      simp [Lexeme.code]
    have cut : literalSections ('"' :: (content ++ ['"', ';'])) =
        ['"' :: (content ++ ['"']), []] := by
      simp [literalSections, lexemes_quoted closed, lexemes_last, Lexeme.code, Lexeme.separates,
        List.splitOnP_cons_eq_if_modifyHead]
    rw [whole, splitSections_escapedQuote closed odd, cut]
    simp
  | unclosed => exact absurd trivial h
  | pair => exact absurd trivial h
  | bare => exact absurd trivial h

/-- **Behind quoted text that ends oddly the readers differ.** -/
theorem exists_apart {code : List Char} {l : Lexeme} (h : l ∈ lexemes escapeTaking code)
    (odd : ¬ l.EndsEven) :
    ∃ init, init <+: code ∧ splitSections (init ++ [';']) ≠ literalSections (init ++ [';']) := by
  induction read : lexemes escapeTaking code generalizing code with
  | nil => simp [read] at h
  | cons first ls ih =>
    obtain ⟨rest, rfl, behind, begins⟩ := lexemes_eq_cons read
    by_cases even : first.EndsEven
    · have inRest : l ∈ lexemes escapeTaking rest := by
        rw [read] at h
        obtain rfl | others := List.mem_cons.1 h
        · exact absurd even odd
        · exact behind ▸ others
      have more : rest ≠ [] := by
        rintro rfl
        simp at inRest
      obtain ⟨init, before, apart⟩ := ih inRest behind.symm
      refine ⟨first.code ++ init, (List.prefix_append_right_inj _).2 before, ?_⟩
      rw [List.append_assoc]
      exact fun agree => apart ((agree_iff (begins.before more _) even).1 agree)
    · exact ⟨first.code, List.prefix_append _ _, apart_of_not_endsEven even⟩

/-! ## The search for placeholders -/

theorem splitOnP_append_of_forall {α : Type} {p : α → Bool} {xs : List α}
    (h : ∀ x ∈ xs, p x = false)
    (ys : List α) : (xs ++ ys).splitOnP p = (ys.splitOnP p).modifyHead (xs ++ ·) := by
  induction xs with
  | nil =>
    obtain ⟨first, others, cut⟩ := List.exists_cons_of_ne_nil (List.splitOnP_ne_nil p ys)
    simp [cut]
  | cons x xs ih =>
    obtain ⟨first, others⟩ := List.forall_mem_cons.1 h
    obtain ⟨sec, secs, cut⟩ := List.exists_cons_of_ne_nil (List.splitOnP_ne_nil p ys)
    rw [List.cons_append, List.splitOnP_cons_eq_if_modifyHead, first, ih others, cut]
    rfl

theorem shows_semicolon {l : Lexeme} {rest : List Char} (begins : l.Begins escapeTaking rest)
    (closed : ¬ l.IsUnclosed) (inside : l.separates = false) :
    ∀ m ∈ l.marks, m.shows (· == ';') = false := by
  intro m hm
  cases l with
  | quoted content closed =>
    obtain ⟨-, hidden⟩ := mem_marked.1 hm
    simp [Mark.shows, hidden]
  | unclosed => exact absurd trivial closed
  | pair mark c =>
    obtain rfl : mark = '\\' := List.mem_singleton.1 begins.1
    by_cases feed : c = '\n'
    · have either : m = ⟨'\\', false⟩ ∨ m = ⟨'\n', false⟩ := by simpa [Lexeme.marks, feed] using hm
      obtain rfl | rfl := either
      · rfl
      · rfl
    · obtain ⟨-, hidden⟩ := mem_marked.1 hm
      simp [Mark.shows, hidden, feed]
  | bare c =>
    obtain ⟨same, hidden⟩ := mem_marked.1 hm
    have char : m.char = c := List.mem_singleton.1 same
    simpa [Mark.shows, hidden, char, Lexeme.separates] using inside

/-- **The semicolons that separate are those that the search for placeholders would see,** if all
quotes are closed. -/
theorem literalSections_eq_marks {code : List Char}
    (closed : ∀ l ∈ lexemes escapeTaking code, ¬ l.IsUnclosed) :
    literalSections code = ((marks code).splitOnP (Mark.shows (· == ';'))).map chars := by
  rw [literalSections, marks_eq]
  induction read : lexemes escapeTaking code generalizing code with
  | nil => simp [chars]
  | cons l ls ih =>
    obtain ⟨rest, -, behind, begins⟩ := lexemes_eq_cons read
    rw [read] at closed
    obtain ⟨first, others⟩ := List.forall_mem_cons.1 closed
    have agree := ih (behind ▸ others) behind.symm
    rw [List.flatMap_cons, List.splitOnP_cons_eq_if_modifyHead]
    by_cases separates : l.separates
    · have semicolon : l = .bare ';' := by
        cases l with
        | bare c => simpa [Lexeme.separates] using separates
        | quoted | unclosed | pair => cases separates
      subst semicolon
      rw [if_pos separates, List.map_cons, agree, Lexeme.marks, marked_cons, marked_nil,
        List.singleton_append, List.splitOnP_cons_eq_if_modifyHead]
      rfl
    · have inside : l.separates = false := by simpa using separates
      obtain ⟨sec, secs, cut⟩ := List.exists_cons_of_ne_nil
        (List.splitOnP_ne_nil (Mark.shows (· == ';')) (ls.flatMap Lexeme.marks))
      rw [if_neg separates, map_written_modifyHead, agree,
        splitOnP_append_of_forall (shows_semicolon begins first inside), cut]
      simp

/-! ## Main result -/

/-- **Where the splitter and the other readers agree.** They cut a code alike if each quoted text
ends in an even number of backslashes. Exactly then they also agree on every semicolon that the code
could be broken off with. The semicolons at which the others cut are those that the search for
placeholders sees, in a code whose quotes are closed. Literal text has the same quotes and escapes,
in a code without an underscore or asterisk that takes one of them. -/
theorem splitSections_eq_iff (code : List Char) :
    ((∀ l ∈ lexemes escapeTaking code, l.EndsEven) → splitSections code = literalSections code) ∧
    ((∀ init, init <+: code → splitSections (init ++ [';']) = literalSections (init ++ [';'])) ↔
      ∀ l ∈ lexemes escapeTaking code, l.EndsEven) ∧
    ((∀ l ∈ lexemes escapeTaking code, ¬ l.IsUnclosed) →
      literalSections code = ((marks code).splitOnP (Mark.shows (· == ';'))).map chars) ∧
    ((∀ l ∈ lexemes literalTaking code, l.IsSteady) →
      lexemes escapeTaking code = (lexemes literalTaking code).flatMap Lexeme.parts) := by
  refine ⟨splitSections_eq, ⟨?_, ?_⟩, literalSections_eq_marks, ?_⟩
  · intro agree l hl
    by_contra odd
    obtain ⟨init, before, apart⟩ := exists_apart hl odd
    exact apart (agree init before)
  · intro even init before
    exact splitSections_eq (endsEven_of_init even before)
  · intro steady
    have alike := lexemes_of_steady (List.append_nil _).symm steady
    simpa using alike

/-- Two backslashes before the closing quote. -/
theorem splitSections_eq_iff_evenBackslashes :
    let code := "\"a\\\\\";0\\;".toList
    (∀ l ∈ lexemes escapeTaking code, l.EndsEven) ∧
      (∀ l ∈ lexemes escapeTaking code, ¬ l.IsUnclosed) ∧
      (∀ l ∈ lexemes literalTaking code, l.IsSteady) ∧
      splitSections code = ["\"a\\\\\"".toList, "0\\;".toList] ∧
      ((marks code).splitOnP (Mark.shows (· == ';'))).map chars =
        ["\"a\\\\\"".toList, "0\\;".toList] := by
  intro code
  have read : lexemes escapeTaking code =
      [.quoted "a\\\\".toList (by decide), .bare ';', .bare '0', .pair '\\' ';'] := by
    decide +kernel
  have even : ∀ l ∈ lexemes escapeTaking code, l.EndsEven := by
    simp [read, Lexeme.EndsEven, trailingBackslashes]
  have closed : ∀ l ∈ lexemes escapeTaking code, ¬ l.IsUnclosed := by
    simp [read, Lexeme.IsUnclosed]
  have steady : ∀ l ∈ lexemes literalTaking code, l.IsSteady := by decide +kernel
  have split : splitSections code = ["\"a\\\\\"".toList, "0\\;".toList] := by decide +kernel
  obtain ⟨agree, -, visible, -⟩ := splitSections_eq_iff code
  exact ⟨even, closed, steady, split, by rw [← visible closed, ← agree even, split]⟩

/-- A backslash at the end of quoted text hides a separator from the splitter, and from no other
reader. -/
theorem exists_separator_hidden :
    ∃ code : List Char, splitSections code = [code] ∧
      literalSections code = ["\"\\\"".toList, "0".toList] ∧
      ((marks code).splitOnP (Mark.shows (· == ';'))).map chars =
        ["\"\\\"".toList, "0".toList] := by
  refine ⟨"\"\\\";0".toList, by decide +kernel, by decide +kernel, by decide +kernel⟩

end SlideMerge.Format
