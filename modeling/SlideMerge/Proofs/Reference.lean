import SlideMerge.Proofs.Numeral
import SlideMerge.Proofs.Trimming
import SlideMerge.Sheet.Reference

/-!
# How references are written

A reference can be written in many ways, with letters of either case, with marks, with leading
zeros, in the digits of any script and with blanks around it (`Spelling`), and each of them denotes
one place.

* **Columns.** The letters of a column denote it (`columnIndex_columnLetters`). At most `k` letters
  denote one of the first `mostColumns k` columns, and these columns have at most `k` letters.
* **Reading** accepts the spellings and nothing else, as long as the digits of the row are not too
  many for an integer, and gives the place that the spelling denotes (`read_eq_ok_iff`).
* **Names.** The name of a place is one of its spellings (`read_name`), and different places have
  different names (`name_injective`).
-/

namespace SlideMerge.Sheet

open Text Numeric

/-! ## Letters -/

theorem isAlpha_iff {c : Char} :
    c.isAlpha ↔ (65 ≤ c.toNat ∧ c.toNat ≤ 90) ∨ (97 ≤ c.toNat ∧ c.toNat ≤ 122) := by
  have cases : c.isAlpha = (c.isUpper || c.isLower) := rfl
  have upper : c.isUpper = decide (65 ≤ c.val ∧ c.val ≤ 90) := rfl
  have lower : c.isLower = (decide (97 ≤ c.val) && decide (c.val ≤ 122)) := rfl
  simp only [cases, upper, lower, Bool.or_eq_true, Bool.and_eq_true, decide_eq_true_eq,
    UInt32.le_iff_toNat_le]
  exact Iff.rfl

theorem upperChar_letter {c : Char} (h : c.isAlpha) :
    upperChar c = [c.toUpper] ∧ 1 ≤ letterValue c.toUpper ∧ letterValue c.toUpper ≤ 26 := by
  have table : ∀ n < 128, (Char.ofNat n).isAlpha →
      upperChar (Char.ofNat n) = [(Char.ofNat n).toUpper] ∧
        1 ≤ letterValue (Char.ofNat n).toUpper ∧ letterValue (Char.ofNat n).toUpper ≤ 26 := by
    decide +kernel
  have small : c.toNat < 128 := by
    have := isAlpha_iff.1 h
    omega
  have entry := table c.toNat small
  rw [Char.ofNat_toNat] at entry
  exact entry h

theorem letter_of_digit {d : Nat} (h : d < 26) :
    (Char.ofNat ('A'.toNat + d)).isAlpha ∧
      letterValue (Char.ofNat ('A'.toNat + d)).toUpper = d + 1 := by
  have table : ∀ d < 26, (Char.ofNat ('A'.toNat + d)).isAlpha ∧
      letterValue (Char.ofNat ('A'.toNat + d)).toUpper = d + 1 := by
    decide
  exact table d h

theorem isBlank_of_isAlpha {c : Char} (h : c.isAlpha) : isBlank c = false := by
  have letter := isAlpha_iff.1 h
  refine Bool.eq_false_iff.2 fun blank => ?_
  simp only [isBlank, inRanges, blankRanges, List.any_cons, List.any_nil, Bool.or_false,
    Bool.or_eq_true, Bool.and_eq_true, decide_eq_true_eq] at blank
  omega

theorem digitZeros_apart :
    ∀ first ∈ digitZeros, first + 10 ≤ 65 ∨ 122 < first := by
  decide

theorem not_isAlpha_of_isDigit {c : Char} (h : isDigit c) : c.isAlpha = false := by
  obtain ⟨first, hf, run⟩ := exists_digitZero h
  refine Bool.eq_false_iff.2 fun letter => ?_
  have bounds := isAlpha_iff.1 letter
  have apart := digitZeros_apart first hf
  omega

/-! ## Columns -/

/-- The number of columns that at most so many letters can name. -/
def mostColumns : Nat → Nat
  | 0 => 0
  | k + 1 => 26 * mostColumns k + 26

theorem mostColumns_three : mostColumns 3 = columnLimit := rfl

theorem mostColumns_mono {j k : Nat} (h : j ≤ k) : mostColumns j ≤ mostColumns k := by
  induction h with
  | refl => exact Nat.le_refl _
  | @step k _ ih =>
    rw [mostColumns]
    omega

theorem columnIndex_concat {letters : List Char} {c : Char} (h : c.isAlpha) :
    columnIndex (letters ++ [c]) = (columnIndex letters + 1) * 26 + letterValue c.toUpper - 1 := by
  have last : upper [c] = [c.toUpper] := by
    rw [upper, List.flatMap_singleton, (upperChar_letter h).1]
  rw [columnIndex, upper_append, last, List.foldl_append, columnIndex]
  simp

theorem columnIndex_lettersOfCount (n : Nat) : columnIndex (lettersOfCount n) = (n : Int) - 1 := by
  fun_induction lettersOfCount n with
  | case1 => rfl
  | case2 n ih =>
    obtain ⟨letter, value⟩ := letter_of_digit (Nat.mod_lt n (by decide))
    rw [columnIndex_concat letter, ih, value]
    omega

/-- **The letters of a column denote it.** -/
theorem columnIndex_columnLetters (column : Nat) : columnIndex (columnLetters column) = column := by
  have count : ((column : Int) + 1).toNat = column + 1 := by omega
  rw [columnLetters, count, columnIndex_lettersOfCount]
  omega

theorem isAlpha_of_mem_lettersOfCount {n : Nat} : ∀ c ∈ lettersOfCount n, c.isAlpha := by
  fun_induction lettersOfCount n with
  | case1 => exact fun c hc => (List.not_mem_nil hc).elim
  | case2 n ih =>
    intro c hc
    rcases List.mem_append.1 hc with hc | hc
    · exact ih c hc
    · rw [List.mem_singleton.1 hc]
      exact (letter_of_digit (Nat.mod_lt n (by decide))).1

theorem length_lettersOfCount_le {k n : Nat} (h : n ≤ mostColumns k) :
    (lettersOfCount n).length ≤ k := by
  induction k generalizing n with
  | zero =>
    obtain rfl := Nat.le_zero.1 h
    simp [lettersOfCount]
  | succ k ih =>
    cases n with
    | zero => simp [lettersOfCount]
    | succ n =>
      rw [mostColumns] at h
      have front := ih (n := n / 26) (by omega)
      rw [lettersOfCount, List.length_append, List.length_singleton]
      omega

/-- **Letters denote one of the columns that so many letters can name.** -/
theorem columnIndex_bounds {letters : List Char} (h : ∀ c ∈ letters, c.isAlpha) :
    -1 ≤ columnIndex letters ∧ columnIndex letters < mostColumns letters.length ∧
      (letters ≠ [] → 0 ≤ columnIndex letters) := by
  induction letters using List.reverseRecOn with
  | nil => decide
  | append_singleton letters c ih =>
    have front := ih fun d hd => h d (List.mem_append_left _ hd)
    have letter : c.isAlpha := h c (List.mem_append_right _ List.mem_cons_self)
    obtain ⟨-, low, high⟩ := upperChar_letter letter
    rw [columnIndex_concat letter, List.length_append, List.length_singleton, mostColumns]
    push_cast
    omega

/-- **The letters of the column that letters denote are the same in upper case.** -/
theorem columnLetters_columnIndex {letters : List Char} (h : ∀ c ∈ letters, c.isAlpha) :
    columnLetters (columnIndex letters) = upper letters := by
  induction letters using List.reverseRecOn with
  | nil =>
    show lettersOfCount 0 = []
    rw [lettersOfCount]
  | append_singleton letters c ih =>
    have front := fun d hd => h d (List.mem_append_left _ hd)
    have letter : c.isAlpha := h c (List.mem_append_right _ List.mem_cons_self)
    obtain ⟨one, low, high⟩ := upperChar_letter letter
    obtain ⟨start, -⟩ := columnIndex_bounds front
    obtain ⟨count, hcount⟩ := Int.eq_ofNat_of_zero_le (show 0 ≤ columnIndex letters + 1 by omega)
    obtain ⟨digit, hdigit⟩ := Int.eq_ofNat_of_zero_le (Int.sub_nonneg.2 low)
    have upperCode : 'A'.toNat + digit = c.toUpper.toNat := by
      rw [letterValue] at hdigit
      omega
    have total : (columnIndex (letters ++ [c]) + 1).toNat = 26 * count + digit + 1 := by
      rw [columnIndex_concat letter, hcount]
      omega
    have quotient : (26 * count + digit) / 26 = count := by omega
    have remainder : (26 * count + digit) % 26 = digit := by omega
    have shorter : lettersOfCount count = upper letters := by
      rw [← ih front, columnLetters, hcount]
      rfl
    rw [columnLetters, total, lettersOfCount, quotient, remainder, shorter, upperCode,
      Char.ofNat_toNat, upper_append, upper, upper, List.flatMap_singleton, one]

/-! ## Spellings -/

namespace Reference

/-- The place so many columns right of `A1`, where the last column is followed by the first, and so
many rows below it. -/
def fromOrigin (right down : Nat) : Reference :=
  ⟨right % columnLimit, down + 1, Nat.mod_lt right (by decide), down.succ_pos⟩

/-- The absolute mark, where there is one. -/
def markText (marked : Bool) : List Char :=
  if marked then ['$'] else []

theorem dropMark_markText {marked : Bool} {cs : List Char} (h : ∀ c ∈ cs.head?, c ≠ '$') :
    dropMark (markText marked ++ cs) = cs := by
  cases marked with
  | true => rfl
  | false =>
    cases cs with
    | nil => rfl
    | cons c rest =>
      have hc := h c rfl
      rw [markText, if_neg Bool.false_ne_true, List.nil_append, dropMark]
      rintro _ ⟨rfl, -⟩
      exact hc rfl

theorem exists_eq_markText_append (cs : List Char) :
    ∃ marked, cs = markText marked ++ dropMark cs := by
  unfold dropMark
  split
  · exact ⟨true, rfl⟩
  · exact ⟨false, rfl⟩

/-- A way to write a reference: between blanks, one to three letters and the digits of a row of at
least 1, each after an optional mark. -/
structure Spelling where
  before : List Char
  columnMarked : Bool
  letters : List Char
  rowMarked : Bool
  digits : List Char
  after : List Char
  blank_before : ∀ c ∈ before, isBlank c
  blank_after : ∀ c ∈ after, isBlank c
  letters_alpha : ∀ c ∈ letters, c.isAlpha
  letters_ne_nil : letters ≠ []
  length_letters_le : letters.length ≤ 3
  digits_digit : ∀ c ∈ digits, isDigit c
  row_pos : 0 < digitsValue digits

namespace Spelling

/-- What is written from the mark of the row on. -/
def rowText (s : Spelling) : List Char :=
  markText s.rowMarked ++ s.digits

/-- What is written between the blanks. -/
def body (s : Spelling) : List Char :=
  markText s.columnMarked ++ (s.letters ++ s.rowText)

/-- What is written. -/
def text (s : Spelling) : List Char :=
  s.before ++ s.body ++ s.after

theorem columnIndex_lt (s : Spelling) : (columnIndex s.letters).toNat < columnLimit := by
  have bounds := columnIndex_bounds s.letters_alpha
  have most := mostColumns_mono s.length_letters_le
  rw [mostColumns_three] at most
  have := bounds.2.2 s.letters_ne_nil
  omega

/-- The place that a spelling denotes: the column of its letters and the row of its digits. -/
def reference (s : Spelling) : Reference :=
  ⟨(columnIndex s.letters).toNat, digitsValue s.digits, s.columnIndex_lt, s.row_pos⟩

theorem digits_ne_nil (s : Spelling) : s.digits ≠ [] := by
  intro empty
  have positive := s.row_pos
  rw [empty] at positive
  exact Nat.lt_irrefl 0 positive

theorem trimmed_body (s : Spelling) : Trimmed s.body where
  first := by
    intro c hc
    obtain ⟨letter, rest, hl⟩ := List.exists_cons_of_ne_nil s.letters_ne_nil
    have alpha := s.letters_alpha letter (hl ▸ List.mem_cons_self)
    rw [body, markText, hl] at hc
    cases hm : s.columnMarked with
    | true =>
      rw [hm] at hc
      obtain rfl := Option.some.inj hc
      rfl
    | false =>
      rw [hm] at hc
      obtain rfl := Option.some.inj hc
      exact isBlank_of_isAlpha alpha
  last := by
    intro c hc
    have member : c ∈ s.digits := by
      refine List.mem_of_getLast? ?_
      rw [Option.mem_def, body, rowText, ← List.append_assoc, ← List.append_assoc,
        List.getLast?_append, List.getLast?_eq_some_getLast s.digits_ne_nil, Option.some_or] at hc
      rw [List.getLast?_eq_some_getLast s.digits_ne_nil, hc]
    exact isBlank_of_isDigit (s.digits_digit c member)

theorem trim_text (s : Spelling) : trim s.text = s.body :=
  trim_eq_of_trimmed s.trimmed_body s.blank_before s.blank_after

/-! ## Reading -/

section

variable (s : Spelling)

theorem head?_digits : ∀ c ∈ s.digits.head?, isDigit c :=
  fun c hc => s.digits_digit c (List.mem_of_mem_head? hc)

theorem head?_rowText : ∀ c ∈ s.rowText.head?, c.isAlpha = false := by
  intro c hc
  rw [rowText, markText] at hc
  cases hm : s.rowMarked with
  | true =>
    rw [hm] at hc
    obtain rfl := Option.some.inj hc
    rfl
  | false =>
    rw [hm] at hc
    exact not_isAlpha_of_isDigit (s.head?_digits c hc)

theorem dropMark_body : dropMark s.body = s.letters ++ s.rowText := by
  refine dropMark_markText fun c hc => ?_
  obtain ⟨letter, rest, hl⟩ := List.exists_cons_of_ne_nil s.letters_ne_nil
  rw [hl] at hc
  obtain rfl := Option.some.inj hc
  have alpha := s.letters_alpha letter (hl ▸ List.mem_cons_self)
  rintro rfl
  exact absurd alpha (by decide)

theorem dropMark_rowText : dropMark s.rowText = s.digits := by
  refine dropMark_markText fun c hc => ?_
  have digit := s.head?_digits c hc
  rintro rfl
  exact absurd digit (by decide)

end

end Spelling

/-- **A spelling is read as the place that it denotes.** -/
theorem read_of_spelling {text : String} {s : Spelling} (h : text.toList = s.text)
    (short : s.digits.length ≤ maxIntegerDigits) : read text = .ok s.reference := by
  have letters : (s.letters ++ s.rowText).takeWhile isColumnLetter = s.letters :=
    takeWhile_run s.letters_alpha s.head?_rowText
  have row : (s.letters ++ s.rowText).dropWhile isColumnLetter = s.rowText :=
    dropWhile_run s.letters_alpha s.head?_rowText
  have wellFormed : (s.letters.isEmpty || decide (3 < s.letters.length) || s.digits.isEmpty ||
      !s.digits.all isDigit) = false := by
    have digits : s.digits.all isDigit := List.all_eq_true.2 s.digits_digit
    simp [s.letters_ne_nil, s.digits_ne_nil, digits, s.length_letters_le]
  have parts : ofParts? s.letters (digitsValue s.digits) = some s.reference :=
    dif_pos ⟨s.columnIndex_lt, s.row_pos⟩
  rw [read, h, s.trim_text]
  simp only [s.dropMark_body, letters, row, s.dropMark_rowText, wellFormed, Bool.false_eq_true,
    if_false, if_neg (Nat.not_lt.2 short), parts]

/-- **A text that is read as a reference is a spelling of it.** -/
theorem exists_spelling_of_read {text : String} {r : Reference} (h : read text = .ok r) :
    ∃ s : Spelling, text.toList = s.text ∧ s.reference = r ∧
      s.digits.length ≤ maxIntegerDigits := by
  obtain ⟨before, after, around, blankBefore, blankAfter⟩ := exists_eq_append_trim text.toList
  obtain ⟨columnMarked, hbody⟩ := exists_eq_markText_append (trim text.toList)
  rw [read] at h
  generalize trim text.toList = body at *
  generalize dropMark body = unmarked at *
  have hsplit := (unmarked.takeWhile_append_dropWhile (p := isColumnLetter)).symm
  obtain ⟨rowMarked, hrow⟩ := exists_eq_markText_append (unmarked.dropWhile isColumnLetter)
  have alpha : ∀ c ∈ unmarked.takeWhile isColumnLetter, isColumnLetter c :=
    fun c hc => List.mem_takeWhile_imp hc
  generalize unmarked.takeWhile isColumnLetter = letters at *
  generalize unmarked.dropWhile isColumnLetter = row at *
  generalize dropMark row = digits at *
  split_ifs at h with malformed tooLong
  simp only [Bool.or_eq_true, List.isEmpty_iff, decide_eq_true_eq, Bool.not_eq_true',
    not_or, Bool.not_eq_false, List.all_eq_true] at malformed
  obtain ⟨⟨⟨lettersNe, lettersLe⟩, -⟩, digitsAll⟩ := malformed
  rw [ofParts?] at h
  split at h
  · next parts =>
    split_ifs at parts with inRange
    obtain rfl := Option.some.inj parts
    obtain rfl := Except.ok.inj h
    refine ⟨⟨before, columnMarked, letters, rowMarked, digits, after, blankBefore, blankAfter,
      alpha, lettersNe, Nat.not_lt.1 lettersLe, digitsAll, inRange.2⟩, ?_, rfl,
      Nat.not_lt.1 tooLong⟩
    rw [Spelling.text, Spelling.body, Spelling.rowText, around, hbody, hsplit, hrow]
  · cases h

/-- **Reading accepts the spellings and nothing else.** -/
theorem read_eq_ok_iff {text : String} {r : Reference} :
    read text = .ok r ↔ ∃ s : Spelling, text.toList = s.text ∧ s.reference = r ∧
      s.digits.length ≤ maxIntegerDigits := by
  constructor
  · exact exists_spelling_of_read
  · rintro ⟨s, hs, rfl, short⟩
    exact read_of_spelling hs short

/-! ## Names -/

/-- A place whose row has no more digits than an integer may be read from. -/
def Writable (r : Reference) : Prop :=
  (decimal r.row).length ≤ maxIntegerDigits

theorem writable_of_read {text : String} {r : Reference} (h : read text = .ok r) : r.Writable := by
  obtain ⟨s, -, rfl, short⟩ := exists_spelling_of_read h
  have positive : 0 < maxIntegerDigits := by decide
  rw [Writable, decimal, Nat.length_toDigits_le_iff (by decide) positive]
  exact (digitsValue_lt s.digits).trans_le (Nat.pow_le_pow_right (by decide) short)

section

variable (r : Reference)

theorem toList_name : r.name.toList = r.letters ++ decimal r.row := by
  rw [name, String.toList_ofList, text, cellName, decimalInt_natCast]
  rfl

theorem isAlpha_of_mem_letters : ∀ c ∈ r.letters, c.isAlpha :=
  isAlpha_of_mem_lettersOfCount

/-- The name of a place, as a way to write it. -/
def nameSpelling : Spelling where
  before := []
  columnMarked := false
  letters := r.letters
  rowMarked := false
  digits := decimal r.row
  after := []
  blank_before := fun _ hc => (List.not_mem_nil hc).elim
  blank_after := fun _ hc => (List.not_mem_nil hc).elim
  letters_alpha := r.isAlpha_of_mem_letters
  letters_ne_nil := by
    intro empty
    have index := columnIndex_columnLetters r.column
    rw [← letters, empty] at index
    have start : columnIndex [] = -1 := rfl
    omega
  length_letters_le := by
    have lt := r.column_lt
    have count : ((r.column : Int) + 1).toNat ≤ mostColumns 3 := by
      rw [mostColumns_three]
      omega
    exact length_lettersOfCount_le count
  digits_digit := fun _ hc => isDigit_of_mem_decimal hc
  row_pos := by
    rw [digitsValue_decimal]
    exact r.row_pos

theorem text_nameSpelling : r.name.toList = r.nameSpelling.text := by
  rw [toList_name]
  exact (List.append_nil _).symm

theorem reference_nameSpelling : r.nameSpelling.reference = r := by
  have column : (columnIndex r.letters).toNat = r.column := by
    rw [letters, columnIndex_columnLetters, Int.toNat_natCast]
  have row : digitsValue (decimal r.row) = r.row := digitsValue_decimal r.row
  cases r
  simp only [Spelling.reference, nameSpelling, mk.injEq]
  exact ⟨column, row⟩

end

/-- **The name of a place denotes it.** -/
theorem read_name {r : Reference} (h : r.Writable) : read r.name = .ok r :=
  read_eq_ok_iff.2 ⟨r.nameSpelling, r.text_nameSpelling, r.reference_nameSpelling, h⟩

/-- **Different places have different names.** -/
theorem name_injective : Function.Injective name := by
  intro r r' h
  have digitFirst (r : Reference) : ∀ c ∈ (decimal r.row).head?, c.isAlpha = false := fun c hc =>
    not_isAlpha_of_isDigit (isDigit_of_mem_decimal (List.mem_of_mem_head? hc))
  have texts : r.letters ++ decimal r.row = r'.letters ++ decimal r'.row := by
    rw [← toList_name, ← toList_name, h]
  have letters : r.letters = r'.letters := by
    rw [← takeWhile_run r.isAlpha_of_mem_letters (digitFirst r), texts,
      takeWhile_run r'.isAlpha_of_mem_letters (digitFirst r')]
  have column : (r.column : Int) = r'.column :=
    calc (r.column : Int) = columnIndex r.letters := (columnIndex_columnLetters r.column).symm
      _ = columnIndex r'.letters := congrArg columnIndex letters
      _ = r'.column := columnIndex_columnLetters r'.column
  have row : r.row = r'.row := by
    rw [letters] at texts
    exact decimal_injective (List.append_cancel_left texts)
  cases r
  cases r'
  simp only [mk.injEq]
  exact ⟨Int.ofNat_inj.1 column, row⟩

end Reference

end SlideMerge.Sheet
