import SlideMerge.Proofs.DateCode
import SlideMerge.Proofs.LiteralPieces
import SlideMerge.Proofs.Rounding
import SlideMerge.Proofs.Sections

/-!
# Digits between literal text

A `Layout` is a section of a number code taken apart: the body of digit placeholders, and the pieces
of literal text before and after it. The search for a pattern stops at the body.

* **No pattern begins before it,** since no piece shows a placeholder, and the pattern of the body
  ends where the body does (`Layout.leftmost_readFixed`).
* **No pattern with an exponent begins anywhere**: it needs a visible `E` between two placeholders
  (`Layout.leftmost_readScientific`).

What is printed is then what the body alone prints, with the text of the pieces around the digits
and after the sign (`surround`).

Main results: `formatNumber_opaquePieces`, that opaque pieces do nothing else, and
`formatNumber_percent`, that a percent sign in the text of any piece makes the number a hundred
times as large.
-/

namespace SlideMerge.Format

open Numeric Text

/-! ## The keyword of the general format -/

/-- The letters of the keyword. -/
def generalLetters : List Char :=
  ['g', 'e', 'n', 'e', 'r', 'a', 'l']

theorem isGeneral_eq_false {cs : List Char} {c : Char} (h : c ∈ cs)
    (other : c.toLower ∉ generalLetters) :
    isGeneral cs = false := by
  by_contra general
  have letters : lowerAscii cs = generalLetters := by
    simpa [isGeneral, generalLetters] using general
  have inLetters : c.toLower ∈ lowerAscii cs := List.mem_map.2 ⟨c, h, rfl⟩
  exact other (letters ▸ inLetters)

/-- A section is neither blank nor the keyword if it has a character that is no blank and no
letter. -/
theorem not_general_of_mem {sec : List Char} {c : Char} (h : c ∈ sec) (solid : isBlank c = false)
    (other : c.toLower ∉ generalLetters) : (isBlankText sec || isGeneral (trim sec)) = false := by
  rw [Bool.or_eq_false_iff]
  constructor
  · by_contra blank
    have all : ∀ c ∈ sec, isBlank c := by simpa [isBlankText] using blank
    simp [all c h] at solid
  · exact isGeneral_eq_false (mem_trim h solid) other

/-! ## Bodies of digits -/

/-- A body of digit placeholders, as in `#,##0.00`, with the commas after it. -/
structure DigitBody where
  /-- The placeholders before the point, with commas after the first of them. -/
  whole : List Char
  /-- The placeholders after the point, if there is a point. -/
  fraction : Option (List Char)
  /-- The number of commas at the end. -/
  commas : Nat
  whole_places : ∀ c ∈ whole, isDigitPlace c ∨ c = ','
  whole_first : ∀ c ∈ whole.head?, isDigitPlace c
  fraction_places : ∀ digits ∈ fraction, ∀ c ∈ digits, isDigitPlace c
  /-- A body that begins with its point has a placeholder after it. -/
  nonempty : whole = [] → ∃ c digits, fraction = some (c :: digits)

namespace DigitBody

variable (b : DigitBody)

/-- The commas at the end. -/
def ending : List Char :=
  List.replicate b.commas ','

/-- The body as it is written in a code. -/
def code : List Char :=
  b.whole ++ b.fraction.elim [] ('.' :: ·) ++ b.ending

/-- The pattern that the body writes. Without a point, the commas at its end are those of the whole
part. -/
def pattern : FixedPattern :=
  match b.fraction with
  | none => .ofParts (marked false (b.whole ++ b.ending)) []
  | some digits => .ofParts (marked false b.whole) (marked false (digits ++ b.ending))

/-- What may follow the body for it to end here. -/
def EndsBefore (after : List Mark) : Prop :=
  ∀ m ∈ after.head?, m.isPlaceholder = false ∧ m.isComma = false ∧
    (b.fraction = none → m.isPoint = false)

variable {b}

theorem mem_code {c : Char} (h : c ∈ b.code) : c ∈ ['0', '#', '?', ',', '.'] := by
  have place {c : Char} (h : isDigitPlace c) : c ∈ ['0', '#', '?', ',', '.'] := by
    rw [isDigitPlace_iff] at h
    exact List.mem_append_left [',', '.'] h
  simp only [code, List.mem_append, or_assoc] at h
  obtain whole | fraction | ending := h
  · obtain hc | rfl := b.whole_places c whole
    · exact place hc
    · simp
  · cases hf : b.fraction with
    | none => simp [hf] at fraction
    | some digits =>
      have point : c = '.' ∨ c ∈ digits := by simpa [hf] using fraction
      obtain rfl | hc := point
      · simp
      · exact place (b.fraction_places digits hf c hc)
  · simp [List.eq_of_mem_replicate ending]

theorem forall_mem_code {P : Char → Prop} (h : P '0' ∧ P '#' ∧ P '?' ∧ P ',' ∧ P '.') :
    ∀ c ∈ b.code, P c := by
  have each : ∀ c ∈ ['0', '#', '?', ',', '.'], P c := by simpa using h
  exact fun c hc => each c (mem_code hc)

theorem exists_mem_code (b : DigitBody) {P : Char → Prop} (h : P '0' ∧ P '#' ∧ P '?' ∧ P '.') :
    ∃ c ∈ b.code, P c := by
  have each : ∀ c ∈ ['0', '#', '?', '.'], P c := by simpa using h
  cases hw : b.whole with
  | nil =>
    obtain ⟨c, digits, hf⟩ := b.nonempty hw
    exact ⟨'.', by simp [code, hf], each '.' (by simp)⟩
  | cons c more =>
    have first := isDigitPlace_iff.1 (b.whole_first c (by simp [hw]))
    exact ⟨c, by simp [code, hw], each c (List.mem_append_left ['.'] first)⟩

theorem isPlaceholder_of_mem_head? (h : b.whole = []) {after : List Mark} :
    ∀ d ∈ (marked false b.code ++ after).head?, d.isPlaceholder = false := by
  obtain ⟨c, digits, hf⟩ := b.nonempty h
  intro d hd
  have first : d = ⟨'.', false⟩ := by
    simpa [code, h, hf, eq_comm] using hd
  rw [first]
  rfl

theorem not_general {sec : List Char} (h : ∀ c ∈ b.code, c ∈ sec) :
    (isBlankText sec || isGeneral (trim sec)) = false := by
  obtain ⟨c, inBody, solid, other⟩ := b.exists_mem_code
    (P := fun c => isBlank c = false ∧ c.toLower ∉ generalLetters) (by decide)
  exact not_general_of_mem (h c inBody) solid other

theorem readFraction_places (b : DigitBody) (whole : List Mark) {after : List Mark}
    {digits : List Char} (hd : ∀ c ∈ digits, isDigitPlace c)
    (ends : ∀ m ∈ after.head?, m.isPlaceholder = false ∧ m.isComma = false) :
    readFraction whole (marked false digits ++ (marked false b.ending ++ after)) =
      (.ofParts whole (marked false (digits ++ b.ending)), after) := by
  have places : ∀ m ∈ marked false digits, m.isPlaceholder := by
    simpa [forall_mem_marked] using hd
  have commas : ∀ m ∈ marked false b.ending, m.isComma := by
    simp [forall_mem_marked, ending]
  have behind : ∀ m ∈ (marked false b.ending ++ after).head?, m.isPlaceholder = false := by
    intro m hm
    unfold ending at hm
    cases hk : b.commas with
    | zero => exact (ends m (by simpa [hk] using hm)).1
    | succ k =>
      have comma : ⟨',', false⟩ = m := by simpa [hk, List.replicate_succ] using hm
      simp [← comma, isDigitPlace]
  simp only [readFraction, takeWhile_run places behind, dropWhile_run places behind,
    takeWhile_run commas fun m hm => (ends m hm).2, dropWhile_run commas fun m hm => (ends m hm).2,
    marked_append]

section Whole

variable {c : Char} {more : List Char} (hc : isDigitPlace c)
  (hm : ∀ d ∈ more, isDigitPlace d ∨ d = ',')

include hc hm

theorem readFixed_unpointed {rest : List Mark}
    (hr : ∀ m ∈ rest.head?, m.isPlaceholder = false ∧ m.isComma = false ∧ m.isPoint = false) :
    readFixed (marked false (c :: more) ++ rest) =
      some (.ofParts (marked false (c :: more)) [], rest) := by
  have run : ∀ m ∈ marked false more, (m.isPlaceholder || m.isComma) = true := by
    simpa [forall_mem_marked] using hm
  have stop : ∀ m ∈ rest.head?, (m.isPlaceholder || m.isComma) = false := by
    intro m h
    simp [hr m h]
  have first : (Mark.mk c false).isPlaceholder := by simpa using hc
  rw [marked_cons, List.cons_append, readFixed, if_pos first]
  dsimp only
  rw [takeWhile_run run stop, dropWhile_run run stop]
  cases rest with
  | nil => rfl
  | cons m rest =>
    have noPoint : m.isPoint = false := (hr m rfl).2.2
    simp [noPoint]

theorem readFixed_pointed (rest : List Mark) :
    readFixed (marked false (c :: more) ++ ⟨'.', false⟩ :: rest) =
      some (readFraction (marked false (c :: more)) rest) := by
  have run : ∀ m ∈ marked false more, (m.isPlaceholder || m.isComma) = true := by
    simpa [forall_mem_marked] using hm
  have stop : ∀ m ∈ (⟨'.', false⟩ :: rest : List Mark).head?,
      (m.isPlaceholder || m.isComma) = false := by
    rintro m ⟨⟩
    rfl
  have first : (Mark.mk c false).isPlaceholder := by simpa using hc
  rw [marked_cons, List.cons_append, readFixed, if_pos first]
  dsimp only
  rw [takeWhile_run run stop, dropWhile_run run stop]
  rfl

end Whole

/-- **The pattern of a body is read up to its end.** -/
theorem readFixed_code {after : List Mark} (ends : b.EndsBefore after) :
    readFixed (marked false b.code ++ after) = some (b.pattern, after) := by
  have stop : ∀ m ∈ after.head?, m.isPlaceholder = false ∧ m.isComma = false :=
    fun m hm => ⟨(ends m hm).1, (ends m hm).2.1⟩
  cases hw : b.whole with
  | nil =>
    -- the body begins with its point
    obtain ⟨c, digits, hf⟩ := b.nonempty hw
    have places := b.fraction_places _ hf
    have first : isDigitPlace c := places c List.mem_cons_self
    have point : isDigitPlace '.' = false := rfl
    have written : marked false b.code ++ after =
        ⟨'.', false⟩ :: (marked false (c :: digits) ++ (marked false b.ending ++ after)) := by
      simp [code, hw, hf]
    rw [written, readFixed, readFraction_places b [] places stop, pattern, hw, hf]
    simp [first, point]
  | cons c more =>
    have first : isDigitPlace c := b.whole_first c (by simp [hw])
    have run : ∀ d ∈ more, isDigitPlace d ∨ d = ',' := by
      intro d hd
      exact b.whole_places d (by simp [hw, hd])
    cases hf : b.fraction with
    | none =>
      have written : marked false b.code ++ after =
          marked false (c :: (more ++ b.ending)) ++ after := by
        simp [code, hw, hf]
      have all : ∀ d ∈ more ++ b.ending, isDigitPlace d ∨ d = ',' := by
        intro d hd
        obtain hd | hd := List.mem_append.1 hd
        · exact run d hd
        · exact .inr (List.eq_of_mem_replicate hd)
      have unpointed : ∀ m ∈ after.head?,
          m.isPlaceholder = false ∧ m.isComma = false ∧ m.isPoint = false := by
        intro m hm
        exact ⟨(ends m hm).1, (ends m hm).2.1, (ends m hm).2.2 hf⟩
      rw [written, readFixed_unpointed first all unpointed, pattern, hf, hw]
      rfl
    | some digits =>
      have places := b.fraction_places _ hf
      have written : marked false b.code ++ after = marked false (c :: more) ++
          ⟨'.', false⟩ :: (marked false digits ++ (marked false b.ending ++ after)) := by
        simp [code, hw, hf]
      rw [written, readFixed_pointed first run, readFraction_places b _ places stop,
        pattern, hf, hw]

end DigitBody

/-! ## Layouts -/

/-- A section taken apart: a body of digits between pieces of literal text. -/
structure Layout where
  before : List Piece
  body : DigitBody
  after : List Piece
  /-- A point right before the placeholders would belong to the body. -/
  starts : body.whole ≠ [] → ∀ p ∈ before.getLast?, p.code ≠ ['.']
  /-- A comma right after the body would belong to it, and so would its first point. -/
  ends : ∀ p ∈ after.head?, p.code ≠ [','] ∧ (body.fraction = none → p.code ≠ ['.'])

/-- The body without literal text. -/
def DigitBody.bare (b : DigitBody) : Layout where
  before := []
  body := b
  after := []
  starts := by simp
  ends := by simp

namespace Layout

variable (L : Layout)

/-- The section as it is written. -/
def code : List Char :=
  codeOf L.before ++ L.body.code ++ codeOf L.after

/-- The pieces before and after the body. -/
def pieces : List Piece :=
  L.before ++ L.after

/-- The marks behind the pieces before the body. -/
def rest : List Mark :=
  marked false L.body.code ++ marksOf L.after

@[simp] theorem code_bare (b : DigitBody) : b.bare.code = b.code := by
  simp [code, DigitBody.bare, codeOf]

theorem marks_code : marks L.code = marksOf L.before ++ L.rest := by
  have plain : ∀ c ∈ L.body.code, c ∉ ['"', '\\'] := DigitBody.forall_mem_code (by decide)
  have after := lexer_codeOf markFrom_code L.after []
  rw [List.append_nil] at after
  rw [marks, code, List.append_assoc, lexer_codeOf markFrom_code, markFrom_plain plain, after]
  simp [rest, marksOf, markFrom]

/-! ## The search for a pattern -/

theorem endsBefore_after : L.body.EndsBefore (marksOf L.after) := by
  intro m hm
  obtain ⟨p, hp, inPiece⟩ := exists_of_head?_marksOf hm
  obtain ⟨noComma, noPoint⟩ := L.ends p hp
  refine ⟨isPlaceholder_of_mem_marks inPiece, ?_, ?_⟩
  · by_contra comma
    exact noComma (code_of_shows inPiece (Bool.not_eq_false _ ▸ comma) (by decide))
  · intro unpointed
    by_contra point
    exact noPoint unpointed (code_of_shows inPiece (Bool.not_eq_false _ ▸ point) (by decide))

/-- A body that begins right after a point begins with a point itself. -/
theorem isPlaceholder_of_mem_head?_rest {m : Mark} (hm : m ∈ (marksOf L.before).getLast?)
    (point : m.isPoint) : ∀ d ∈ L.rest.head?, d.isPlaceholder = false := by
  obtain ⟨p, hp, inPiece⟩ := exists_of_getLast?_marksOf hm
  have single : p.code = ['.'] := code_of_shows inPiece point (by decide)
  have empty : L.body.whole = [] := by
    by_contra whole
    exact L.starts whole p hp single
  exact DigitBody.isPlaceholder_of_mem_head? empty

end Layout

section Search

variable {α : Type}

theorem readFixed_eq_none {m : Mark} {ms : List Mark} (hm : m.isPlaceholder = false)
    (hp : m.isPoint → ∀ d ∈ ms.head?, d.isPlaceholder = false) : readFixed (m :: ms) = none := by
  have none_next : (m.isPoint && ms.head?.any Mark.isPlaceholder) = false := by
    by_cases point : m.isPoint
    · cases hd : ms.head? with
      | none => simp
      | some d => simp [hp point d hd]
    · simp [point]
  simp [readFixed, hm, none_next]

/-- A placeholder begins a pattern. -/
theorem readFixed_ne_none {m : Mark} (h : m.isPlaceholder) (ms : List Mark) :
    readFixed (m :: ms) ≠ none := by
  rw [readFixed, if_pos h]
  dsimp only
  split
  · simp
  · split_ifs <;> simp

/-- The search passes over marks at which `p` fails. -/
theorem leftmost_append {p : List Mark → Option α} {before after : List Mark} {a : α}
    (fails : ∀ init m post, before = init ++ m :: post → p (m :: (post ++ after)) = none)
    (found : p after = some a) : leftmost p (before ++ after) = some (before, a) := by
  induction before with
  | nil => cases after <;> simp [leftmost, found]
  | cons m before ih =>
    have rest := ih fun init n post split => fails (m :: init) n post (by simp [split])
    have here := fails [] m before rfl
    rw [List.cons_append, leftmost, here, rest]
    rfl

/-- What the search has passed over does not match. -/
theorem fails_of_leftmost {p : List Mark → Option α} {before tail : List Mark} {a : α}
    (h : leftmost p (before ++ tail) = some (before, a)) {init post : List Mark} {m : Mark}
    (split : before = init ++ m :: post) : p (m :: (post ++ tail)) = none := by
  induction before generalizing init with
  | nil => simp at split
  | cons first before ih =>
    rw [List.cons_append, leftmost] at h
    cases here : p (first :: (before ++ tail)) with
    | some found =>
      rw [here] at h
      cases h
    | none =>
      rw [here] at h
      obtain ⟨⟨passed, found⟩, rest, same⟩ := Option.map_eq_some_iff.1 h
      obtain ⟨rfl, rfl⟩ : passed = before ∧ found = a := by simpa using same
      cases init with
      | nil =>
        obtain ⟨rfl, rfl⟩ := List.cons.inj split
        exact here
      | cons n init => exact ih rest (List.cons.inj split).2

/-- What stands between two elements that a list has only in its middle stands there too. -/
theorem mem_middle_of_sublist {x y z : α} {before middle after : List α}
    (h : [x, y, z].Sublist (before ++ (middle ++ after))) (hx : x ∉ before) (hz : z ∉ after) :
    y ∈ middle := by
  obtain ⟨first, others, split, inBefore, inOthers⟩ := List.sublist_append_iff.1 h
  -- nothing of the three is in the first part, since `x` would be, and `z` is not in the last one
  cases first with
  | cons w first =>
    have same : x = w := (List.cons.inj split).1
    exact absurd (inBefore.subset (same ▸ List.mem_cons_self)) hx
  | nil =>
    rw [← List.nil_append others, ← split] at inOthers
    obtain ⟨inner, last, split, inMiddle, inAfter⟩ := List.sublist_append_iff.1 inOthers
    obtain rfl | ⟨last, w, rfl⟩ := List.eq_nil_or_concat' last
    · rw [List.append_nil] at split
      exact inMiddle.subset (split ▸ by simp)
    · have same : z = w := by simpa using congrArg List.getLast? split
      exact absurd (inAfter.subset (same ▸ by simp)) hz

theorem sublist_of_readExponent {wholeCount places : Nat} {ms : List Mark}
    {found : ScientificPattern × List Mark} (h : readExponent wholeCount places ms = some found) :
    ∃ e d, [e, d].Sublist ms ∧ e.shows (fun c => c == 'e' || c == 'E') ∧ d.isPlaceholder := by
  unfold readExponent at h
  split at h
  · next e sign rest =>
    dsimp only at h
    split_ifs at h with shown
    simp only [Bool.and_eq_true] at shown
    obtain ⟨⟨exponent, -⟩, width⟩ := shown
    cases rest with
    | nil => simp at width
    | cons d rest =>
      have place : d.isPlaceholder := by
        by_contra other
        simp [other] at width
      exact ⟨e, d, by simp, exponent, place⟩
  · cases h

/-- A pattern with an exponent has an `E` between two placeholders. -/
theorem sublist_of_readScientific {ms : List Mark} {found : ScientificPattern × List Mark}
    (h : readScientific ms = some found) :
    ∃ m e d, [m, e, d].Sublist ms ∧ m.isPlaceholder ∧ e.shows (fun c => c == 'e' || c == 'E') ∧
      d.isPlaceholder := by
  cases ms with
  | nil => cases h
  | cons m ms =>
    rw [readScientific] at h
    dsimp only at h
    split_ifs at h with first
    -- the exponent is read from what remains behind the digits
    have exponent {rest : List Mark} {wholeCount places : Nat} (part : rest.Sublist ms)
        (read : readExponent wholeCount places rest = some found) :
        ∃ m' e d, [m', e, d].Sublist (m :: ms) ∧ m'.isPlaceholder ∧
          e.shows (fun c => c == 'e' || c == 'E') ∧ d.isPlaceholder := by
      obtain ⟨e, d, inside, he, hd⟩ := sublist_of_readExponent read
      exact ⟨m, e, d, (inside.trans part).cons_cons m, first, he, hd⟩
    have behind := List.dropWhile_sublist (l := ms) fun m => m.isPlaceholder || m.isComma
    split at h
    · cases h
    · next point after remains =>
      rw [remains] at behind
      split_ifs at h
      · exact exponent
          ((List.dropWhile_sublist _).trans ((List.sublist_cons_self _ _).trans behind)) h
      · exact exponent behind h

section Body

variable {b : DigitBody} {before after : List Mark}
  (hb : ∀ m ∈ before, m.isPlaceholder = false)

include hb

/-- **The pattern of a body is found** behind marks that show no placeholder, unless a point before
it belongs to it. -/
theorem leftmost_readFixed_body (ends : b.EndsBefore after)
    (starts : ∀ m ∈ before.getLast?, m.isPoint →
      ∀ d ∈ (marked false b.code ++ after).head?, d.isPlaceholder = false) :
    leftmost readFixed (before ++ (marked false b.code ++ after)) =
      some (before, b.pattern, after) := by
  refine leftmost_append ?_ (DigitBody.readFixed_code ends)
  intro init m post split
  have shown : ∀ d ∈ m :: post, d.isPlaceholder = false := by
    intro d hd
    exact hb d (split ▸ List.mem_append_right init hd)
  refine readFixed_eq_none (shown m List.mem_cons_self) ?_
  intro point d hd
  cases post with
  | nil =>
    have last : m ∈ before.getLast? := by simp [split]
    exact starts m last point d hd
  | cons n post =>
    have next : n = d := by simpa using hd
    exact shown d (by simp [next])

/-- **No pattern with an exponent is found** where only a body shows placeholders. -/
theorem leftmost_readScientific_body (ha : ∀ m ∈ after, m.isPlaceholder = false) :
    leftmost readScientific (before ++ (marked false b.code ++ after)) = none := by
  cases found : leftmost readScientific (before ++ (marked false b.code ++ after)) with
  | none => rfl
  | some result =>
    obtain ⟨passed, pattern⟩ := result
    obtain ⟨ms, parts, read⟩ := leftmost_eq_some found
    obtain ⟨m, e, d, inside, hm, he, hd⟩ := sublist_of_readScientific read
    have all : [m, e, d].Sublist (before ++ (marked false b.code ++ after)) := by
      rw [parts]
      exact inside.trans (List.sublist_append_right passed ms)
    have inBody : e ∈ marked false b.code := by
      refine mem_middle_of_sublist all ?_ ?_
      · intro h
        simp [hb m h] at hm
      · intro h
        simp [ha d h] at hd
    obtain ⟨hc, -⟩ := mem_marked.1 inBody
    have other : ∀ c ∈ b.code, (c == 'e' || c == 'E') = false :=
      DigitBody.forall_mem_code (by decide)
    simp only [Mark.shows, other e.char hc, Bool.and_false] at he
    cases he

end Body

end Search

namespace Layout

variable (L : Layout)

/-- **The pattern of the body is found.** -/
theorem leftmost_readFixed :
    leftmost readFixed (marks L.code) =
      some (marksOf L.before, L.body.pattern, marksOf L.after) := by
  rw [marks_code]
  refine leftmost_readFixed_body (fun m => isPlaceholder_of_mem_marksOf) L.endsBefore_after ?_
  exact fun m hm point => L.isPlaceholder_of_mem_head?_rest hm point

/-- **No pattern with an exponent is found.** -/
theorem leftmost_readScientific : leftmost readScientific (marks L.code) = none := by
  rw [marks_code]
  exact leftmost_readScientific_body (fun m => isPlaceholder_of_mem_marksOf)
    fun m => isPlaceholder_of_mem_marksOf

end Layout

/-! ## What is printed -/

/-- The text of a number between other text, which follows its sign. -/
def surround (before after : List Char) : List Char → List Char
  | '-' :: digits => '-' :: (before ++ digits ++ after)
  | digits => before ++ digits ++ after

theorem surround_signed (before after : List Char) (negative : Bool) {digits : List Char}
    (h : '-' ∉ digits) :
    surround before after ((if negative then ['-'] else []) ++ digits) =
      (if negative then ['-'] else []) ++ before ++ digits ++ after := by
  cases negative with
  | true => simp [surround]
  | false =>
    show surround before after digits = before ++ digits ++ after
    unfold surround
    split
    · exact absurd List.mem_cons_self h
    · rfl

/-- The digits of a number come without a sign. -/
theorem minus_not_mem_fixedText (places : Nat) (grouped : Bool) (units : Nat) :
    '-' ∉ fixedText places grouped units := by
  have noDigit : ¬ isDigit '-' := by decide +kernel
  have whole : '-' ∉ decimal (units / Nat.pow 10 places) :=
    fun h => noDigit (isDigit_of_mem_decimal h)
  have groups : '-' ∉ groupThousands (decimal (units / Nat.pow 10 places)) :=
    fun h => noDigit (isDigit_of_mem_groupThousands h (by decide))
  have fraction : '-' ∉ pointed places units := by
    unfold pointed fractionDigits
    split_ifs
    · simp
    · have digits : '-' ∉ paddedDecimal places (units % Nat.pow 10 places) :=
        fun h => noDigit (isDigit_of_mem_paddedDecimal h)
      simpa using digits
  unfold fixedText wholeDigits
  cases grouped with
  | true => simpa using ⟨groups, fraction⟩
  | false => simpa using ⟨whole, fraction⟩

/-- Of all numbers, only the negative infinity is printed with a sign of its own. -/
theorem minus_not_mem_fixedMagnitude (pattern : FixedPattern) {x : Double}
    (h : x ≠ .infinite true) : '-' ∉ (fixedMagnitude pattern x).1 := by
  unfold fixedMagnitude
  cases x with
  | nan =>
    show '-' ∉ Double.nan.text
    decide
  | infinite negative =>
    have positive : negative = false := by simpa using h
    subst positive
    show '-' ∉ (Double.infinite false).text
    decide
  | finite => exact minus_not_mem_fixedText _ _ _

theorem ne_infinite_of_doubleOfInt {n : Int} {x : Double} (h : Number.doubleOfInt n = .ok x) :
    x ≠ .infinite true := by
  unfold Number.doubleOfInt Double.ofInt? at h
  generalize Double.ofRat n false = y at h
  cases y with
  | finite =>
    rw [← Except.ok.inj h]
    simp
  | nan | infinite => cases h

theorem ne_infinite_of_magnitude {value : Number} {x : Double} (h : value.magnitude = .ok x) :
    x ≠ .infinite true := by
  cases value with
  | logical b => exact ne_infinite_of_doubleOfInt h
  | integer n => exact ne_infinite_of_doubleOfInt h
  | real y =>
    rw [← Except.ok.inj h]
    cases y <;> simp [Double.abs]

/-- The digits that are printed for a number, and whether they are those of zero. -/
def printedDigits (pattern : FixedPattern) (value : Number) :
    Except NumberFault (List Char × Bool) :=
  fixedMagnitude pattern <$>
    ((if pattern.scaling = 0 then .ok value else value.divThousands pattern.scaling) >>=
      Number.magnitude)

theorem minus_not_mem_printedDigits {pattern : FixedPattern} {value : Number}
    {digits : List Char × Bool} (h : printedDigits pattern value = .ok digits) :
    '-' ∉ digits.1 := by
  obtain ⟨x, hx, rfl⟩ := map_eq_ok.1 h
  obtain ⟨scaled, -, hm⟩ := bind_eq_ok.1 hx
  exact minus_not_mem_fixedMagnitude pattern (ne_infinite_of_magnitude hm)

theorem formatFixed_eq (pattern : FixedPattern) (before after : List Char) (negative : Bool)
    (value : Number) :
    formatFixed pattern before after negative value =
      (fun digits : List Char × Bool => (if negative && digits.2 then ['-'] else []) ++
        literalText before ++ digits.1 ++ literalText after) <$> printedDigits pattern
          (if '%' ∈ literalText before ∨ '%' ∈ literalText after then value.timesHundred
            else value) := by
  unfold formatFixed printedDigits
  dsimp only
  generalize (if '%' ∈ literalText before ∨ '%' ∈ literalText after then value.timesHundred
    else value) = value
  by_cases unscaled : pattern.scaling = 0
  · rw [if_pos unscaled, if_pos unscaled]
    cases hm : value.magnitude <;> simp [bind, Except.bind, Functor.map, Except.map, hm]
  · rw [if_neg unscaled, if_neg unscaled]
    cases value.divThousands pattern.scaling with
    | error => rfl
    | ok value =>
      cases hm : value.magnitude <;> simp [bind, Except.bind, Functor.map, Except.map, hm]

/-- **The literal text is put around the digits,** and a percent sign in it makes the number a
hundred times as large. -/
theorem formatFixed_surround (pattern : FixedPattern) (before after : List Char) (negative : Bool)
    (value : Number) :
    formatFixed pattern before after negative value =
      surround (literalText before) (literalText after) <$> formatFixed pattern [] [] negative
        (if '%' ∈ literalText before ∨ '%' ∈ literalText after then value.timesHundred
          else value) := by
  rw [formatFixed_eq, formatFixed_eq]
  simp only [literalText_nil, List.not_mem_nil, or_self, if_false, List.append_nil]
  generalize (if '%' ∈ literalText before ∨ '%' ∈ literalText after then value.timesHundred
    else value) = value
  cases printed : printedDigits pattern value with
  | error => rfl
  | ok digits =>
    have signed := surround_signed (literalText before) (literalText after) (negative && digits.2)
      (minus_not_mem_printedDigits printed)
    exact congrArg Except.ok signed.symm

/-! ## Sections and codes -/

namespace Layout

variable (L : Layout)

/-- A percent sign is shown, be it protected or not. -/
def ShowsPercent : Prop :=
  '%' ∈ textOf L.before ∨ '%' ∈ textOf L.after

instance : Decidable L.ShowsPercent :=
  inferInstanceAs (Decidable (_ ∨ _))

/-- The number that the body prints. -/
def scaled (value : Number) : Number :=
  if L.ShowsPercent then value.timesHundred else value

/-- **A section prints what its body prints,** in the general format if a fraction stands in it. -/
theorem formatSection_code (value : Number) (negative : Bool) :
    formatSection L.code value negative =
      if hasFraction (marks L.code) then generalText value
      else surround (textOf L.before) (textOf L.after) <$>
        formatFixed L.body.pattern [] [] negative (L.scaled value) := by
  have fixed := formatFixed_surround L.body.pattern (codeOf L.before)
      (codeOf L.after) negative value
  unfold formatSection
  have inCode : ∀ c ∈ L.body.code, c ∈ L.code :=
    fun c hc => List.mem_append_left _ (List.mem_append_right _ hc)
  simp only [DigitBody.not_general inCode, leftmost_readScientific, leftmost_readFixed,
    chars_marksOf, fixed, literalText_codeOf]
  rfl

end Layout

theorem hasFraction_eq_false {ms : List Mark} (h : ∀ m ∈ ms, m.shows (· == '/') = false) :
    hasFraction ms = false := by
  induction ms with
  | nil => rfl
  | cons m ms ih =>
    obtain ⟨-, others⟩ := List.forall_mem_cons.1 h
    have here : beginsFraction (m :: ms) = false := by
      unfold beginsFraction
      cases remains : ms.dropWhile Mark.isBlank with
      | nil => simp [remains]
      | cons slash rest =>
        have inside : slash ∈ ms :=
          (List.dropWhile_sublist Mark.isBlank).subset (remains ▸ List.mem_cons_self)
        simp [remains, others slash inside]
    rw [hasFraction, here, ih others]
    rfl

/-! ## Opaque pieces -/

namespace Layout

variable {L : Layout}

/-- All pieces are opaque. -/
def IsOpaque (L : Layout) : Prop :=
  ∀ p ∈ L.pieces, p.IsOpaque

theorem isOpaque_bare (b : DigitBody) : b.bare.IsOpaque := by
  simp [IsOpaque, pieces, DigitBody.bare]

namespace IsOpaque

variable (h : L.IsOpaque)

include h

theorem before : ∀ p ∈ L.before, p.IsOpaque :=
  fun p hp => h p (List.mem_append_left _ hp)

theorem after : ∀ p ∈ L.after, p.IsOpaque :=
  fun p hp => h p (List.mem_append_right _ hp)

theorem splitSections_code : splitSections L.code = [L.code] := by
  have run : ∀ c ∈ L.body.code, c ∉ ['\\', '"'] ∧ (c = ';' → false = true) :=
    DigitBody.forall_mem_code (by decide)
  have ending := sections_codeOf h.after []
  have body := splitFrom_run run (codeOf L.after)
  rw [List.append_nil] at ending
  simp only [sections, splitFrom] at ending
  rw [ending] at body
  unfold splitSections
  rw [code, List.append_assoc, sections_codeOf h.before, sections, body]
  simp

theorem stripBrackets_code : stripBrackets L.code = L.code := by
  have pieces {ps : List Piece} (hp : ∀ p ∈ ps, p.IsOpaque) : '[' ∉ codeOf ps := by
    intro inside
    obtain ⟨p, hps, hc⟩ := List.mem_flatMap.1 inside
    exact bracket_not_mem_code (hp p hps) hc
  have body : '[' ∉ L.body.code := fun hc => absurd (DigitBody.mem_code hc) (by decide)
  have none : '[' ∉ L.code := by
    simpa [code] using ⟨pieces h.before, body, pieces h.after⟩
  have kept := stripBrackets_append none []
  simpa using kept

theorem hasFraction_marks : hasFraction (marks L.code) = false := by
  have pieces {ps : List Piece} (hp : ∀ p ∈ ps, p.IsOpaque) :
      ∀ m ∈ marksOf ps, m.shows (· == '/') = false := by
    intro m hm
    obtain ⟨p, hps, inPiece⟩ := List.mem_flatMap.1 hm
    by_contra slash
    have single := code_of_shows inPiece (Bool.not_eq_false _ ▸ slash) (by decide)
    exact (hp p hps).code_ne_singleton _ single
  apply hasFraction_eq_false
  rw [marks_code, rest]
  intro m hm
  obtain hm | hm := List.mem_append.1 hm
  · exact pieces h.before m hm
  obtain hm | hm := List.mem_append.1 hm
  · obtain ⟨hc, hidden⟩ := mem_marked.1 hm
    have other : ∀ c ∈ L.body.code, c ≠ '/' := DigitBody.forall_mem_code (by decide)
    simp [Mark.shows, other m.char hc]
  · exact pieces h.after m hm

theorem not_showsPercent : ¬ L.ShowsPercent := by
  have pieces {ps : List Piece} (hp : ∀ p ∈ ps, p.IsOpaque) : '%' ∉ textOf ps := by
    intro inside
    obtain ⟨p, hps, hc⟩ := List.mem_flatMap.1 inside
    exact percent_not_mem_text (hp p hps) hc
  exact not_or.2 ⟨pieces h.before, pieces h.after⟩

theorem formatNumber_code (value : Number) :
    formatNumber value L.code =
      surround (textOf L.before) (textOf L.after) <$>
        formatFixed L.body.pattern [] [] value.isNegative value := by
  rw [formatNumber_single h.splitSections_code, h.stripBrackets_code, formatSection_code,
    h.hasFraction_marks, scaled, if_neg h.not_showsPercent]
  rfl

end IsOpaque

end Layout

theorem DigitBody.formatNumber_code (b : DigitBody) (value : Number) :
    formatNumber value b.code = formatFixed b.pattern [] [] value.isNegative value := by
  have alone := (Layout.isOpaque_bare b).formatNumber_code value
  rw [Layout.code_bare] at alone
  rw [alone]
  have unchanged : surround (textOf b.bare.before) (textOf b.bare.after) = id := by
    funext digits
    simp only [DigitBody.bare, textOf, List.flatMap_nil, id]
    unfold surround
    split <;> simp
  rw [unchanged, id_map]
  rfl

/-- **Opaque pieces change nothing but the text.** A code with opaque pieces around its body has one
section, and the pattern that is found in it is that of the body: its groups, its places and its
scaling. The code prints the text of the pieces around the digits that the body prints alone,
whatever looks like a separator, a placeholder, a fraction or an exponent in the pieces. -/
theorem formatNumber_opaquePieces (value : Number) (b : DigitBody) {before after : List Piece}
    (h : ∀ p ∈ before ++ after, p.IsOpaque) :
    let code := codeOf before ++ b.code ++ codeOf after
    splitSections code = [code] ∧
      leftmost readFixed (marks code) = some (marksOf before, b.pattern, marksOf after) ∧
      formatNumber value code =
        surround (textOf before) (textOf after) <$> formatNumber value b.code := by
  intro code
  let L : Layout :=
    { before := before
      body := b
      after := after
      starts := fun _ p hp =>
        (h p (List.mem_append_left _ (List.mem_of_mem_getLast? hp))).code_ne_singleton _
      ends := fun p hp =>
        have inside := h p (List.mem_append_right _ (List.mem_of_mem_head? hp))
        ⟨inside.code_ne_singleton _, fun _ => inside.code_ne_singleton _⟩ }
  have isOpaque : L.IsOpaque := h
  rw [b.formatNumber_code]
  exact ⟨isOpaque.splitSections_code, L.leftmost_readFixed, isOpaque.formatNumber_code value⟩

/-- The body `#,##0.00,`. -/
def thousands : DigitBody where
  whole := ['#', ',', '#', '#', '0']
  fraction := some ['0', '0']
  commas := 1
  whole_places := by simp [isDigitPlace]
  whole_first := by simp [isDigitPlace]
  fraction_places := by simp [isDigitPlace]
  nonempty := by simp

/-- Quoted text that looks like codes of other kinds, and an escaped quote. -/
def deceptive : List Piece :=
  [.quoted "E+0;#,/0.0".toList (by decide), .escaped '"']

/-- The section, the groups, the places and the sign are those of the body alone. -/
theorem formatNumber_opaquePieces_deceptive :
    (∀ p ∈ deceptive ++ [.escaped ';'], p.IsOpaque) ∧
      formatNumber (.integer (-1234567890)) "\"E+0;#,/0.0\"\\\"#,##0.00,\\;".toList =
        .ok "-E+0;#,/0.0\"1,234,567.89;".toList := by
  have isOpaque : ∀ p ∈ deceptive ++ [.escaped ';'], p.IsOpaque := by
    simp [deceptive, Piece.IsOpaque]
  have alone : formatNumber (.integer (-1234567890)) thousands.code =
      .ok "-1,234,567.89".toList := by
    decide +kernel
  have result := (formatNumber_opaquePieces (.integer (-1234567890)) thousands isOpaque).2.2
  rw [alone] at result
  exact ⟨isOpaque, result⟩

/-! ## Percent signs -/

/-- **A hundred times a number has its sign.** -/
@[simp] theorem isNegative_timesHundred (value : Number) :
    value.timesHundred.isNegative = value.isNegative := by
  cases value with
  | logical b => cases b <;> rfl
  | integer n =>
    simp only [Number.timesHundred, Number.isNegative, decide_eq_decide]
    omega
  | real x =>
    have hundred : (Double.ofRat 100 false).toRat? = some ((100 : Nat) : Rat) := by decide +kernel
    have positive : (Double.ofRat 100 false).signBit = false := by decide +kernel
    exact Double.isNegative_mul hundred positive (by decide)

/-- **A percent sign in the text of any piece scales the number.** The code of one section prints
what its body prints alone, for a number that is a hundred times as large if the text of the pieces
has a percent sign. That is so if a percent sign is a piece of its own, and also if one stands in a
quoted or escaped piece. With a fraction in it, the section prints the general format. -/
theorem formatNumber_percent (value : Number) {L : Layout} {code : List Char}
    (single : splitSections code = [code]) (stripped : stripBrackets code = L.code) :
    (formatNumber value code =
      if hasFraction (marks L.code) then generalText value
      else surround (textOf L.before) (textOf L.after) <$>
        formatNumber (if L.ShowsPercent then value.timesHundred else value) L.body.code) ∧
    (L.ShowsPercent ↔
      (∃ p ∈ L.pieces, p.code = ['%']) ∨ ∃ p ∈ L.pieces, p.isProtected ∧ '%' ∈ p.text) := by
  constructor
  · have sign : (L.scaled value).isNegative = value.isNegative := by
      unfold Layout.scaled
      split_ifs <;> simp
    rw [formatNumber_single single, stripped, L.formatSection_code, ← Layout.scaled,
      DigitBody.formatNumber_code, sign]
  · have shown (p : Piece) :
        '%' ∈ p.text ↔ p.code = ['%'] ∨ p.isProtected ∧ '%' ∈ p.text := by
      cases p with
      | quoted => simp [Piece.code, Piece.isProtected]
      | escaped => simp [Piece.code, Piece.isProtected]
      | plain c => simp [Piece.code, Piece.text, Piece.isProtected, eq_comm]
    have all : L.ShowsPercent ↔ ∃ p ∈ L.pieces, '%' ∈ p.text := by
      simp [Layout.ShowsPercent, Layout.pieces, textOf, or_and_right, exists_or]
    rw [all, ← exists_or]
    exact exists_congr fun p => (and_congr_right' (shown p)).trans and_or_left

/-- The section `0"%"`. -/
def quotedPercent : Layout where
  before := []
  body :=
    { whole := ['0']
      fraction := none
      commas := 0
      whole_places := by simp [isDigitPlace]
      whole_first := by simp [isDigitPlace]
      fraction_places := by simp
      nonempty := by simp }
  after := [.quoted ['%'] (by decide)]
  starts := by simp
  ends := by simp [Piece.code]

/-- The body `0`. -/
def zeroBody : DigitBody :=
  quotedPercent.body

/-- Behind a colour the section is the same. -/
theorem formatNumber_percent_quotedPercent :
    formatNumber (.integer (-5)) "[Red]0\"%\"".toList = .ok "-500%".toList := by
  have single : splitSections "[Red]0\"%\"".toList = ["[Red]0\"%\"".toList] := by decide +kernel
  have stripped : stripBrackets "[Red]0\"%\"".toList = quotedPercent.code := by decide +kernel
  rw [(formatNumber_percent (.integer (-5)) single stripped).1]
  decide +kernel

/-- A quoted percent sign scales the number, although there is none outside quotes and escapes. -/
theorem exists_protected_percent_scales :
    ∃ L : Layout, splitSections L.code = [L.code] ∧ stripBrackets L.code = L.code ∧
      hasFraction (marks L.code) = false ∧ (∀ p ∈ L.pieces, p.code ≠ ['%']) ∧
      formatNumber (.integer 5) L.code = .ok "500%".toList ∧
      surround (textOf L.before) (textOf L.after) <$> formatNumber (.integer 5) L.body.code =
        .ok "5%".toList := by
  refine ⟨quotedPercent, by decide +kernel, by decide +kernel, by decide +kernel, ?_,
    by decide +kernel, by decide +kernel⟩
  simp [quotedPercent, Layout.pieces, Piece.code]

end SlideMerge.Format
