import SlideMerge.Proofs.NumberCode
import SlideMerge.Proofs.Trimming

/-!
# Pieces of literal text

The text around the digits of a number code is made of quoted text, escapes and ordinary characters.
Three lexers read it, each with its own idea of what a quote or a backslash protects, and each
passes over a piece and goes on behind it.

* **Rendering** gives the text of the piece (`literalText_codeOf`).
* **Marking** hides it, or shows one ordinary character (`markFrom_code`).
* **Splitting** keeps it in one section if it is opaque (`sections_codeOf`).

What a piece shows is never a placeholder (`isPlaceholder_of_mem_marksOf`), and a point or a comma
only if it is a piece of its own (`code_of_shows`).
-/

namespace SlideMerge.Format

open Numeric Text

/-! ## Characters and their marks -/

/-- A character that holds the place of a digit. -/
def isDigitPlace (c : Char) : Bool :=
  c == '0' || c == '#' || c == '?'

theorem isDigitPlace_iff {c : Char} : isDigitPlace c ↔ c ∈ ['0', '#', '?'] := by
  simp [isDigitPlace, or_assoc]

/-- The characters, each of them hidden or not. -/
def marked (hidden : Bool) (cs : List Char) : List Mark :=
  cs.map fun c => ⟨c, hidden⟩

@[simp] theorem marked_nil (hidden : Bool) : marked hidden [] = [] := rfl

@[simp] theorem marked_cons (hidden : Bool) (c : Char) (cs : List Char) :
    marked hidden (c :: cs) = ⟨c, hidden⟩ :: marked hidden cs := rfl

@[simp] theorem marked_append (hidden : Bool) (cs ds : List Char) :
    marked hidden (cs ++ ds) = marked hidden cs ++ marked hidden ds := by
  simp [marked]

@[simp] theorem chars_marked (hidden : Bool) (cs : List Char) : chars (marked hidden cs) = cs := by
  induction cs with
  | nil => rfl
  | cons c cs ih => exact congrArg (c :: ·) ih

@[simp] theorem isPlaceholder_visible (c : Char) :
    (Mark.mk c false).isPlaceholder = isDigitPlace c := by
  simp [Mark.isPlaceholder, Mark.shows, isDigitPlace]

@[simp] theorem isComma_visible (c : Char) : (Mark.mk c false).isComma = (c == ',') := by
  simp [Mark.isComma, Mark.shows]

@[simp] theorem isPoint_visible (c : Char) : (Mark.mk c false).isPoint = (c == '.') := by
  simp [Mark.isPoint, Mark.shows]

theorem mem_marked {hidden : Bool} {cs : List Char} {m : Mark} :
    m ∈ marked hidden cs ↔ m.char ∈ cs ∧ m.hidden = hidden := by
  unfold marked
  rw [List.mem_map]
  constructor
  · rintro ⟨c, hc, rfl⟩
    exact ⟨hc, rfl⟩
  · rintro ⟨hc, rfl⟩
    exact ⟨m.char, hc, rfl⟩

theorem forall_mem_marked {hidden : Bool} {cs : List Char} {P : Mark → Prop} :
    (∀ m ∈ marked hidden cs, P m) ↔ ∀ c ∈ cs, P ⟨c, hidden⟩ := by
  simp [marked]

/-- Visible text, up to the next quote or backslash. -/
theorem markFrom_plain {plain : List Char} (h : ∀ c ∈ plain, c ∉ ['"', '\\']) (rest : List Char) :
    markFrom false (plain ++ rest) = marked false plain ++ markFrom false rest := by
  induction plain with
  | nil => rfl
  | cons c plain ih =>
    obtain ⟨hc, hp⟩ := List.forall_mem_cons.1 h
    simp only [List.mem_cons, List.not_mem_nil, or_false, not_or] at hc
    rw [List.cons_append, markFrom.eq_4 c _ fun d rest hd _ => hc.2 hd, ih hp]
    simp [hc.1]

/-- Text between quotes is hidden, and so is the quote at its end. -/
theorem markFrom_closed {content : List Char} (h : '"' ∉ content) (rest : List Char) :
    markFrom true (content ++ '"' :: rest) =
      marked true content ++ ⟨'"', true⟩ :: markFrom false rest := by
  induction content with
  | nil => simp [markFrom]
  | cons c content ih =>
    simp only [List.mem_cons, not_or] at h
    have other : (c != '"') = true := by simpa using Ne.symm h.1
    rw [List.cons_append, markFrom, other, ih h.2]
    simp

theorem literalFrom_closed {content : List Char} (h : '"' ∉ content) (rest : List Char) :
    literalFrom true (content ++ '"' :: rest) = content ++ literalFrom false rest := by
  induction content with
  | nil => simp [literalFrom]
  | cons c content ih =>
    simp only [List.mem_cons, not_or] at h
    rw [List.cons_append, literalFrom, if_neg (Ne.symm h.1), ih h.2, List.cons_append]

theorem splitFrom_run {quoted : Bool} {run : List Char}
    (h : ∀ c ∈ run, c ∉ ['\\', '"'] ∧ (c = ';' → quoted = true)) (rest : List Char) :
    splitFrom quoted false (run ++ rest) =
      (run ++ (splitFrom quoted false rest).1, (splitFrom quoted false rest).2) := by
  induction run with
  | nil => rfl
  | cons c run ih =>
    obtain ⟨⟨marks, separator⟩, hr⟩ := List.forall_mem_cons.1 h
    simp only [List.mem_cons, List.not_mem_nil, or_false, not_or] at marks
    have within : ¬ (c = ';' ∧ quoted = false) := by
      rintro ⟨hc, outside⟩
      simp [separator hc] at outside
    rw [List.cons_append, splitFrom]
    simp only [marks, within, Bool.false_eq_true, if_false, consFirst, ih hr, List.cons_append]

theorem splitFrom_quoted {content : List Char} (h : ∀ c ∈ content, c ∉ ['"', '\\'])
    (rest : List Char) :
    splitFrom false false ('"' :: (content ++ '"' :: rest)) =
      ('"' :: (content ++ '"' :: (splitFrom false false rest).1),
        (splitFrom false false rest).2) := by
  have run : ∀ c ∈ content, c ∉ ['\\', '"'] ∧ (c = ';' → true = true) := by
    intro c hc
    have other := h c hc
    refine ⟨?_, fun _ => rfl⟩
    simp only [List.mem_cons, List.not_mem_nil, or_false, not_or] at other ⊢
    exact ⟨other.2, other.1⟩
  have inside := splitFrom_run run ('"' :: rest)
  simp [splitFrom, consFirst, inside]

/-! ## Pieces of literal text -/

/-- A piece of the text around the digits. -/
inductive Piece
  /-- Text between double quotes. -/
  | quoted (content : List Char) (closed : '"' ∉ content)
  /-- A backslash and the character that it protects. -/
  | escaped (c : Char)
  /-- An ordinary character, which stands for itself and holds no place of a digit. -/
  | plain (c : Char) (ordinary : c ∉ ['"', '\\', '_', '*']) (other : isDigitPlace c = false)

namespace Piece

/-- The piece as it is written in a code. -/
def code : Piece → List Char
  | quoted content _ => '"' :: (content ++ ['"'])
  | escaped c => ['\\', c]
  | plain c _ _ => [c]

/-- The text that the piece stands for. -/
def text : Piece → List Char
  | quoted content _ => content
  | escaped c => [c]
  | plain c _ _ => [c]

/-- Quotes and backslashes hide what they protect, but a backslash does not hide a line feed. -/
def isHidden : Piece → Bool
  | quoted _ _ => true
  | escaped c => c != '\n'
  | plain _ _ _ => false

/-- Quoted or escaped. -/
def isProtected : Piece → Bool
  | plain _ _ _ => false
  | _ => true

def marks (p : Piece) : List Mark :=
  marked p.isHidden p.code

/-- A protected piece without a bracket that would be opened and without a percent sign, and between
quotes without a backslash. -/
def IsOpaque : Piece → Prop
  | quoted content _ => ∀ c ∈ content, c ∉ ['\\', '[', '%']
  | escaped c => c ∉ ['[', '%']
  | plain _ _ _ => False

end Piece

/-- The pieces as they are written in a code. -/
def codeOf (ps : List Piece) : List Char :=
  ps.flatMap Piece.code

/-- The text that the pieces stand for. -/
def textOf (ps : List Piece) : List Char :=
  ps.flatMap Piece.text

def marksOf (ps : List Piece) : List Mark :=
  ps.flatMap Piece.marks

@[simp] theorem chars_marksOf (ps : List Piece) : chars (marksOf ps) = codeOf ps := by
  have each (p : Piece) : p.marks.map Mark.char = p.code := chars_marked _ _
  simp [chars, marksOf, codeOf, List.map_flatMap, each]

theorem lexer_codeOf {α : Type} {lexer : List Char → List α} {output : Piece → List α}
    (step : ∀ p rest, lexer (p.code ++ rest) = output p ++ lexer rest) (ps : List Piece)
    (rest : List Char) : lexer (codeOf ps ++ rest) = ps.flatMap output ++ lexer rest := by
  induction ps with
  | nil => rfl
  | cons p ps ih =>
    simp only [codeOf] at ih ⊢
    rw [List.flatMap_cons, List.flatMap_cons, List.append_assoc, List.append_assoc, step, ih]

theorem literalFrom_code (p : Piece) (rest : List Char) :
    literalFrom false (p.code ++ rest) = p.text ++ literalFrom false rest := by
  cases p with
  | quoted content closed =>
    have inside := literalFrom_closed closed rest
    simpa [Piece.code, Piece.text, literalFrom] using inside
  | escaped c => rfl
  | plain c ordinary other =>
    simp only [List.mem_cons, List.not_mem_nil, or_false, not_or] at ordinary
    obtain ⟨quote, backslash, underscore, asterisk⟩ := ordinary
    exact literalFrom.eq_7 c rest quote (fun _ _ h _ => backslash h) (fun _ _ h _ => underscore h)
      fun _ _ h _ => asterisk h

theorem markFrom_code (p : Piece) (rest : List Char) :
    markFrom false (p.code ++ rest) = p.marks ++ markFrom false rest := by
  cases p with
  | quoted content closed =>
    have found : '"' ∈ content ++ '"' :: rest := by simp
    have read : markFrom false ('"' :: (content ++ '"' :: rest)) =
        ⟨'"', true⟩ :: markFrom true (content ++ '"' :: rest) := by
      simp [markFrom]
    simpa [Piece.code, Piece.marks, Piece.isHidden, read] using markFrom_closed closed rest
  | escaped c =>
    by_cases hc : c = '\n' <;> simp [Piece.code, Piece.marks, Piece.isHidden, markFrom, hc]
  | plain c ordinary other =>
    have visible : ∀ d ∈ [c], d ∉ ['"', '\\'] := by
      simp only [List.mem_cons, List.not_mem_nil, or_false, not_or] at ordinary
      simpa using ⟨ordinary.1, ordinary.2.1⟩
    exact markFrom_plain visible rest

/-- **Pieces are rendered as the text that they stand for.** -/
@[simp] theorem literalText_codeOf (ps : List Piece) : literalText (codeOf ps) = textOf ps := by
  have rendered := lexer_codeOf literalFrom_code ps []
  simpa [literalFrom, literalText, textOf] using rendered

theorem splitFrom_code {p : Piece} (h : p.IsOpaque) (rest : List Char) :
    splitFrom false false (p.code ++ rest) =
      (p.code ++ (splitFrom false false rest).1, (splitFrom false false rest).2) := by
  cases p with
  | quoted content closed =>
    have plain : ∀ c ∈ content, c ∉ ['"', '\\'] := by
      intro c hc
      have outside := h c hc
      simp only [List.mem_cons, List.not_mem_nil, or_false, not_or] at outside ⊢
      exact ⟨fun eq => closed (eq ▸ hc), outside.1⟩
    simpa [Piece.code] using splitFrom_quoted plain rest
  | escaped c => simp [Piece.code, splitFrom, consFirst]
  | plain => cases h

/-- **No semicolon of an opaque piece separates sections.** -/
theorem sections_codeOf {ps : List Piece} (h : ∀ p ∈ ps, p.IsOpaque) (rest : List Char) :
    sections (codeOf ps ++ rest) = (codeOf ps ++ (sections rest).1, (sections rest).2) := by
  induction ps with
  | nil => rfl
  | cons p ps ih =>
    obtain ⟨hp, hps⟩ := List.forall_mem_cons.1 h
    simp only [sections, codeOf] at ih ⊢
    rw [List.flatMap_cons, List.append_assoc, splitFrom_code hp, ih hps, List.append_assoc]

theorem bracket_not_mem_code {p : Piece} (h : p.IsOpaque) : '[' ∉ p.code := by
  cases p with
  | quoted content closed =>
    have inside : '[' ∉ content := fun hc => h '[' hc (by decide)
    simp [Piece.code, inside]
  | escaped c =>
    have other : c ≠ '[' := by
      intro hc
      exact h (hc ▸ List.mem_cons_self)
    simp [Piece.code, Ne.symm other]
  | plain => cases h

theorem Piece.IsOpaque.code_ne_singleton {p : Piece} (h : p.IsOpaque) (c : Char) :
    p.code ≠ [c] := by
  cases p with
  | quoted content => simp [Piece.code]
  | escaped => simp [Piece.code]
  | plain => cases h

theorem percent_not_mem_text {p : Piece} (h : p.IsOpaque) : '%' ∉ p.text := by
  cases p with
  | quoted content closed => exact fun hc => h '%' hc (by decide)
  | escaped c =>
    intro hc
    exact h (List.mem_singleton.1 hc ▸ by decide)
  | plain => cases h

/-! ## What pieces show -/

/-- A visible character is an ordinary one, apart from a backslash before a line feed. -/
theorem code_of_shows {p : Piece} {m : Mark} {c : Char} (hm : m ∈ p.marks) (hs : m.shows (· == c))
    (hc : c ∉ ['\\', '\n']) : p.code = [c] := by
  obtain ⟨inCode, hidden⟩ := mem_marked.1 hm
  simp only [Mark.shows, hidden, Bool.and_eq_true, Bool.not_eq_true', beq_iff_eq] at hs
  obtain ⟨visible, rfl⟩ := hs
  cases p with
  | quoted => cases visible
  | escaped d =>
    have feed : d = '\n' := by simpa [Piece.isHidden] using visible
    subst feed
    exact absurd inCode hc
  | plain d => exact congrArg (fun c => [c]) (List.mem_singleton.1 inCode).symm

theorem isPlaceholder_of_mem_marks {p : Piece} {m : Mark} (h : m ∈ p.marks) :
    m.isPlaceholder = false := by
  obtain ⟨c, hidden⟩ := m
  obtain ⟨inCode, rfl⟩ := mem_marked.1 h
  cases p with
  | quoted => rfl
  | escaped d =>
    by_cases feed : d = '\n'
    · subst feed
      have either : c = '\\' ∨ c = '\n' := by simpa [Piece.code] using inCode
      rcases either with rfl | rfl <;> decide
    · have hidden : (Piece.escaped d).isHidden = true := by simpa [Piece.isHidden] using feed
      rw [hidden]
      rfl
  | plain d ordinary other =>
    have same : c = d := List.mem_singleton.1 inCode
    simpa [Piece.isHidden, same] using other

theorem isPlaceholder_of_mem_marksOf {ps : List Piece} {m : Mark} (h : m ∈ marksOf ps) :
    m.isPlaceholder = false := by
  obtain ⟨p, -, hp⟩ := List.mem_flatMap.1 h
  exact isPlaceholder_of_mem_marks hp

theorem marks_ne_nil (p : Piece) : p.marks ≠ [] := by
  cases p <;> simp [Piece.marks, Piece.code]

theorem exists_of_head?_marksOf {ps : List Piece} {m : Mark} (h : m ∈ (marksOf ps).head?) :
    ∃ p ∈ ps.head?, m ∈ p.marks := by
  cases ps with
  | nil => cases h
  | cons p ps =>
    refine ⟨p, rfl, ?_⟩
    rw [marksOf, List.flatMap_cons, List.head?_append_of_ne_nil _ (marks_ne_nil p)] at h
    exact List.mem_of_mem_head? h

theorem exists_of_getLast?_marksOf {ps : List Piece} {m : Mark} (h : m ∈ (marksOf ps).getLast?) :
    ∃ p ∈ ps.getLast?, m ∈ p.marks := by
  obtain rfl | ⟨ps, p, rfl⟩ := List.eq_nil_or_concat' ps
  · cases h
  · refine ⟨p, by simp, ?_⟩
    rw [marksOf, List.flatMap_append, List.flatMap_singleton,
      List.getLast?_append_of_ne_nil _ (marks_ne_nil p)] at h
    exact List.mem_of_mem_getLast? h

end SlideMerge.Format
