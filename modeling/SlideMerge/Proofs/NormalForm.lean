import SlideMerge.Proofs.Reference

/-!
# The normal form of references

The normal form of a written reference is the name of the place that it denotes: its letters in
upper case and its row in plain digits (`toList_name_reference`), which is how the letters of the
column index and the row are written.

**Spelled texts.** A text is accepted when it is a spelling between blanks and its row is not too
long to be read (`Spelling.Spells`). It is then read as the place of the spelling
(`read_of_spells`), and no other text is read (`exists_spells_of_read`).

**Normal forms.** The normal form of a place's name is the name itself (`normalize_name`), so taking
normal forms twice is taking them once. Since different places have different names, two accepted
texts have one normal form exactly when their column indices and their rows are the same
(`normalize_eq_iff`).

Main result: `normalize_normalForm`.
-/

namespace SlideMerge.Sheet.Reference

open Text Numeric

/-! ## Spelled texts -/

namespace Spelling

/-- Without the blanks around it the text is this spelling, and its row has no more digits than an
integer may be read from. -/
def Spells (s : Spelling) (text : String) : Prop :=
  trim text.toList = s.body ∧ s.digits.length ≤ maxIntegerDigits

/-- The same spelling between other blanks. -/
def between (s : Spelling) (before after : List Char) (hb : ∀ c ∈ before, isBlank c)
    (ha : ∀ c ∈ after, isBlank c) : Spelling :=
  { s with before, after, blank_before := hb, blank_after := ha }

variable (s : Spelling)

theorem column_reference : (s.reference.column : Int) = columnIndex s.letters := by
  have bounds := columnIndex_bounds s.letters_alpha
  exact Int.toNat_of_nonneg (bounds.2.2 s.letters_ne_nil)

theorem row_reference : s.reference.row = digitsValue s.digits := rfl

theorem letters_reference : s.reference.letters = upper s.letters := by
  rw [Reference.letters, column_reference, columnLetters_columnIndex s.letters_alpha]

/-- **The name of the place of a spelling has its letters in upper case and its row in plain
digits.** -/
theorem toList_name_reference :
    s.reference.name.toList = upper s.letters ++ decimal (digitsValue s.digits) := by
  rw [toList_name, letters_reference, row_reference]

theorem name_reference :
    s.reference.name = String.ofList (cellName (digitsValue s.digits) (columnIndex s.letters)) := by
  rw [name, Reference.text, column_reference, row_reference]

end Spelling

theorem read_of_spells {text : String} {s : Spelling} (h : s.Spells text) :
    read text = .ok s.reference := by
  obtain ⟨body, short⟩ := h
  obtain ⟨before, after, around, blankBefore, blankAfter⟩ := exists_eq_append_trim text.toList
  have written : text.toList = (s.between before after blankBefore blankAfter).text := by
    rw [around, body]
    rfl
  exact read_of_spelling (s := s.between before after blankBefore blankAfter) written short

theorem exists_spells_of_read {text : String} {r : Reference} (h : read text = .ok r) :
    ∃ s : Spelling, s.Spells text ∧ s.reference = r := by
  obtain ⟨s, written, denotes, short⟩ := exists_spelling_of_read h
  refine ⟨s, ⟨?_, short⟩, denotes⟩
  rw [written, s.trim_text]

/-! ## Normal forms -/

theorem normalize_of_read {text : String} {r : Reference} (h : read text = .ok r) :
    normalize text = .ok r.name := by
  rw [normalize, h]
  rfl

theorem exists_read_of_normalize {text name : String} (h : normalize text = .ok name) :
    ∃ r, read text = .ok r ∧ r.name = name := by
  rw [normalize] at h
  cases hr : read text with
  | ok r =>
    rw [hr] at h
    exact ⟨r, rfl, Except.ok.inj h⟩
  | error fault =>
    rw [hr] at h
    cases h

/-- **The name of a place is its own normal form**, if its row can be read again at all. -/
theorem normalize_name {r : Reference} : normalize r.name = .ok r.name ↔ r.Writable := by
  constructor
  · intro h
    obtain ⟨r', hr, same⟩ := exists_read_of_normalize h
    obtain rfl := name_injective same
    exact writable_of_read hr
  · intro writable
    exact normalize_of_read (read_name writable)

theorem normalize_idempotent {text name : String} (h : normalize text = .ok name) :
    normalize name = .ok name := by
  obtain ⟨r, hr, rfl⟩ := exists_read_of_normalize h
  exact normalize_name.2 (writable_of_read hr)

/-- **Two accepted texts have one normal form exactly when they denote one column and one row.** -/
theorem normalize_eq_iff {text text' : String} {s s' : Spelling} (h : s.Spells text)
    (h' : s'.Spells text') :
    normalize text = normalize text' ↔
      columnIndex s.letters = columnIndex s'.letters ∧
        digitsValue s.digits = digitsValue s'.digits := by
  rw [normalize_of_read (read_of_spells h), normalize_of_read (read_of_spells h')]
  constructor
  · intro names
    have places : s.reference = s'.reference := name_injective (Except.ok.inj names)
    rw [← s.column_reference, ← s'.column_reference, places, ← s.row_reference, places]
    exact ⟨rfl, rfl⟩
  · rintro ⟨columns, rows⟩
    rw [s.name_reference, s'.name_reference, columns, rows]

/-- **References have a normal form.** A text is read if and only if it is, without its blanks, one
to three letters and the digits of a row of at least 1, each after an optional mark; it is read as
its letters in upper case and its row, and its normal form puts these two together, which is the
name of the cell by its row and the index of its column. Normal forms are their own normal forms,
two texts have one normal form if and only if column index and row agree, and the name of every cell
that a reference can name is read as that cell and is its own normal form, as long as an integer may
be read from the digits of its row. -/
theorem normalize_normalForm :
    (∀ text, (∃ r, read text = .ok r) ↔ ∃ s : Spelling, s.Spells text) ∧
    (∀ text, ∀ s : Spelling, s.Spells text →
      (fun r => (r.letters, r.row)) <$> read text = .ok (upper s.letters, digitsValue s.digits) ∧
      normalize text = .ok (String.ofList (upper s.letters ++ decimal (digitsValue s.digits))) ∧
      normalize text =
        .ok (String.ofList (cellName (digitsValue s.digits) (columnIndex s.letters)))) ∧
    (∀ text name, normalize text = .ok name → normalize name = .ok name) ∧
    (∀ text text', ∀ s s' : Spelling, s.Spells text → s'.Spells text' →
      (normalize text = normalize text' ↔
        columnIndex s.letters = columnIndex s'.letters ∧
          digitsValue s.digits = digitsValue s'.digits)) ∧
    ∀ row column : Nat, 0 < row → column < columnLimit → (decimal row).length ≤ maxIntegerDigits →
      (fun r => (r.column, r.row)) <$> read (String.ofList (cellName row column)) =
        .ok (column, row) ∧
      normalize (String.ofList (cellName row column)) =
        .ok (String.ofList (cellName row column)) := by
  refine ⟨?_, ?_, ?_, ?_, ?_⟩
  · intro text
    constructor
    · rintro ⟨r, hr⟩
      obtain ⟨s, spells, -⟩ := exists_spells_of_read hr
      exact ⟨s, spells⟩
    · rintro ⟨s, spells⟩
      exact ⟨s.reference, read_of_spells spells⟩
  · intro text s spells
    have denotes := read_of_spells spells
    refine ⟨?_, ?_, ?_⟩
    · rw [denotes, ← s.letters_reference]
      rfl
    · rw [normalize_of_read denotes, ← s.toList_name_reference, String.ofList_toList]
    · rw [normalize_of_read denotes, s.name_reference]
  · intro text name h
    exact normalize_idempotent h
  · intro text text' s s' spells spells'
    exact normalize_eq_iff spells spells'
  · intro row column rowPos columnLt short
    let place : Reference := ⟨column, row, columnLt, rowPos⟩
    have again : read place.name = .ok place := read_name short
    exact ⟨congrArg ((fun r : Reference => (r.column, r.row)) <$> ·) again, normalize_of_read again⟩

/-- Between blanks, `$aB$` and a row with leading zeros of another script. -/
def markedSpelling : Spelling where
  before := [' ']
  columnMarked := true
  letters := ['a', 'B']
  rowMarked := true
  digits := ['٠', '٠', '7']
  after := ['\n']
  blank_before := List.all_eq_true.1 (by decide)
  blank_after := List.all_eq_true.1 (by decide)
  letters_alpha := List.all_eq_true.1 (by decide)
  letters_ne_nil := List.cons_ne_nil _ _
  length_letters_le := by decide
  digits_digit := List.all_eq_true.1 (by decide)
  row_pos := by decide

/-- A text with marks, blanks and zeros has the normal form of the plain one, which is the name of
the cell. -/
theorem normalize_normalForm_marked :
    markedSpelling.Spells " $aB$٠٠7\n" ∧ normalize " $aB$٠٠7\n" = .ok "AB7" ∧
      normalize "AB7" = .ok "AB7" ∧
      (fun r => (r.column, r.row)) <$> read "AB7" = .ok (27, 7) := by
  have spells : markedSpelling.Spells " $aB$٠٠7\n" := by
    constructor
    · decide
    · decide
  obtain ⟨-, forms, again, -, cells⟩ := normalize_normalForm
  obtain ⟨-, marked, -⟩ := forms _ _ spells
  have plain :
      String.ofList (upper markedSpelling.letters ++ decimal (digitsValue markedSpelling.digits)) =
      "AB7" := by decide
  rw [plain] at marked
  have cell : String.ofList (cellName (7 : Nat) (27 : Nat)) = "AB7" := by decide +kernel
  obtain ⟨place, -⟩ := cells 7 27 (by decide) (by decide) (by decide)
  rw [cell] at place
  exact ⟨spells, marked, again _ _ marked, place⟩

end SlideMerge.Sheet.Reference
