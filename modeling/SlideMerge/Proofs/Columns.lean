import Mathlib.Data.List.Shortlex
import SlideMerge.Proofs.Reference

/-!
# Columns and their letters

The columns and the non-empty words of the letters `A` to `Z` stand for each other: reading the
letters of a column gives the column, and writing the column of a word gives the word in upper case.

**Writing in rounds** (`writeLetter`). Letters are written from the last one on. A round moves one
letter from the columns that are still to be counted to the word that is written, and the two
together stay the same (`lettersOfCount_writeLetter`). So there is nothing left to be counted after
as many rounds as there are letters, and not before (`iterate_writeLetter`).

**Order.** There is no digit zero, so no word spells the column of a shorter one. Columns are
ordered as their words are, by length and then alphabetically (`shortlex_lettersOfCount`).

Main result: `columnLetters_bijective`.
-/

namespace SlideMerge.Sheet

open Text

/-! ## Writing in rounds -/

/-- One round of writing letters from the last one on: of the columns that are still to be counted,
the last digit goes in front of the word. -/
def writeLetter (s : Nat × List Char) : Nat × List Char :=
  ((s.1 - 1) / 26, Char.ofNat ('A'.toNat + (s.1 - 1) % 26) :: s.2)

theorem lettersOfCount_zero : lettersOfCount 0 = [] := by
  rw [lettersOfCount]

theorem length_lettersOfCount_pos_iff {n : Nat} : 0 < (lettersOfCount n).length ↔ 0 < n := by
  cases n with
  | zero => simp [lettersOfCount_zero]
  | succ n => simp [lettersOfCount]

/-- **A round moves one letter** from the count to the word. -/
theorem lettersOfCount_writeLetter {s : Nat × List Char} (h : 0 < s.1) :
    lettersOfCount (writeLetter s).1 ++ (writeLetter s).2 = lettersOfCount s.1 ++ s.2 ∧
      (lettersOfCount (writeLetter s).1).length + 1 = (lettersOfCount s.1).length := by
  obtain ⟨count, word⟩ := s
  cases count with
  | zero => exact absurd h (Nat.lt_irrefl 0)
  | succ n =>
    show lettersOfCount (n / 26) ++ Char.ofNat ('A'.toNat + n % 26) :: word = _ ∧
      (lettersOfCount (n / 26)).length + 1 = _
    rw [lettersOfCount, List.append_assoc, List.singleton_append, List.length_append,
      List.length_singleton]
    exact ⟨rfl, rfl⟩

/-- **Rounds move one letter each,** as long as there are letters. -/
theorem iterate_writeLetter {n k : Nat} (h : k ≤ (lettersOfCount n).length) (word : List Char) :
    lettersOfCount (writeLetter^[k] (n, word)).1 ++ (writeLetter^[k] (n, word)).2 =
        lettersOfCount n ++ word ∧
      (lettersOfCount (writeLetter^[k] (n, word)).1).length + k = (lettersOfCount n).length := by
  induction k with
  | zero => exact ⟨rfl, rfl⟩
  | succ k ih =>
    obtain ⟨whole, length⟩ := ih (Nat.le_of_succ_le h)
    have left : 0 < (writeLetter^[k] (n, word)).1 := length_lettersOfCount_pos_iff.1 (by omega)
    obtain ⟨kept, moved⟩ := lettersOfCount_writeLetter left
    rw [Function.iterate_succ_apply']
    exact ⟨kept.trans whole, by omega⟩

/-- **Writing ends with all letters,** after as many rounds as there are letters and not before. -/
theorem exists_rounds (n : Nat) :
    ∃ rounds, writeLetter^[rounds] (n, []) = (0, lettersOfCount n) ∧
      ∀ k < rounds, 0 < (writeLetter^[k] (n, [])).1 := by
  refine ⟨(lettersOfCount n).length, ?_, ?_⟩
  · obtain ⟨whole, length⟩ := iterate_writeLetter (Nat.le_refl (lettersOfCount n).length) []
    have none : ¬ 0 < (writeLetter^[(lettersOfCount n).length] (n, [])).1 := by
      rw [← length_lettersOfCount_pos_iff]
      omega
    have used := Nat.eq_zero_of_not_pos none
    rw [used, lettersOfCount_zero, List.nil_append, List.append_nil] at whole
    exact Prod.ext used whole
  · intro k before
    obtain ⟨-, length⟩ := iterate_writeLetter (Nat.le_of_lt before) []
    exact length_lettersOfCount_pos_iff.1 (by omega)

/-! ## Letters -/

/-- The letter of a digit is one of `A` to `Z`, and it comes behind those of smaller digits. -/
theorem upperLetter_of_digit {d : Nat} (h : d < 26) :
    ('A' ≤ Char.ofNat ('A'.toNat + d) ∧ Char.ofNat ('A'.toNat + d) ≤ 'Z') ∧
      ∀ e < d, Char.ofNat ('A'.toNat + e) < Char.ofNat ('A'.toNat + d) := by
  have table : ∀ d < 26, ('A' ≤ Char.ofNat ('A'.toNat + d) ∧ Char.ofNat ('A'.toNat + d) ≤ 'Z') ∧
      ∀ e < d, Char.ofNat ('A'.toNat + e) < Char.ofNat ('A'.toNat + d) := by
    decide +kernel
  exact table d h

theorem upperLetter_of_mem_lettersOfCount {n : Nat} :
    ∀ c ∈ lettersOfCount n, 'A' ≤ c ∧ c ≤ 'Z' := by
  fun_induction lettersOfCount n with
  | case1 => exact fun c hc => (List.not_mem_nil hc).elim
  | case2 n ih =>
    intro c hc
    rcases List.mem_append.1 hc with hc | hc
    · exact ih c hc
    · rw [List.mem_singleton.1 hc]
      exact (upperLetter_of_digit (Nat.mod_lt n (by decide))).1

/-! ## Order -/

/-- Among words of one length, what is put behind them does not matter to the order. -/
theorem lex_append_of_lex {α : Type} {r : α → α → Prop} {s t : List α} (h : List.Lex r s t)
    (length : s.length = t.length) (u v : List α) : List.Lex r (s ++ u) (t ++ v) := by
  induction h with
  | nil => simp at length
  | cons _ ih => exact .cons (ih (Nat.succ.inj length))
  | rel first => exact .rel first

theorem shortlex_concat {s t : List Char} (h : List.Shortlex (· < ·) s t) (c d : Char) :
    List.Shortlex (· < ·) (s ++ [c]) (t ++ [d]) := by
  rcases List.shortlex_def.1 h with shorter | ⟨length, before⟩
  · exact .of_length_lt (by simpa using shorter)
  · exact .of_lex (by simpa using length) (lex_append_of_lex before length [c] [d])

/-- **An earlier column has a shorter word, or one of the same length that comes before.** -/
theorem shortlex_lettersOfCount {m n : Nat} (h : m < n) :
    List.Shortlex (· < ·) (lettersOfCount m) (lettersOfCount n) := by
  fun_induction lettersOfCount n generalizing m with
  | case1 => exact absurd h m.not_lt_zero
  | case2 n ih =>
    cases m with
    | zero =>
      refine .of_length_lt ?_
      rw [lettersOfCount_zero, List.length_append, List.length_singleton]
      exact Nat.succ_pos _
    | succ m =>
      rw [lettersOfCount]
      -- the last letters decide only if the letters before them are the same
      by_cases front : m / 26 < n / 26
      · exact shortlex_concat (ih front) _ _
      · have same : m / 26 = n / 26 := by omega
        have last : m % 26 < n % 26 := by omega
        rw [same]
        refine .append_left ((List.shortlex_singleton_iff _ _).2 ?_) _
        exact (upperLetter_of_digit (Nat.mod_lt n (by decide))).2 _ last

/-- **Columns are ordered as their words are.** -/
theorem lt_iff_shortlex {m n : Nat} :
    m < n ↔ List.Shortlex (· < ·) (lettersOfCount m) (lettersOfCount n) := by
  constructor
  · exact shortlex_lettersOfCount
  · intro before
    rcases Nat.lt_trichotomy m n with less | rfl | greater
    · exact less
    · exact absurd before (Std.Irrefl.irrefl _)
    · exact absurd before (Std.Asymm.asymm _ _ (shortlex_lettersOfCount greater))

/-! ## Main result -/

theorem columnLetters_natCast (column : Nat) :
    columnLetters column = lettersOfCount (column + 1) := by
  rw [columnLetters]
  congr 1

/-- **The columns and their letters stand for each other.** Writing a column ends with a non-empty
word of the letters `A` to `Z`, which denotes that column; every non-empty word of letters of either
case denotes a column, which is written as the word in upper case; and a column comes before another
if and only if its word is shorter, or is of the same length and comes before alphabetically. -/
theorem columnLetters_bijective :
    (∀ column : Nat,
      (∃ rounds, writeLetter^[rounds] (column + 1, []) = (0, columnLetters column) ∧
        ∀ k < rounds, 0 < (writeLetter^[k] (column + 1, [])).1) ∧
      columnLetters column ≠ [] ∧ (∀ c ∈ columnLetters column, 'A' ≤ c ∧ c ≤ 'Z') ∧
      columnIndex (columnLetters column) = column) ∧
    (∀ letters : List Char, letters ≠ [] → (∀ c ∈ letters, c.isAlpha) →
      0 ≤ columnIndex letters ∧ columnLetters (columnIndex letters) = upper letters) ∧
    ∀ m n : Nat, m < n ↔
      (columnLetters m).length < (columnLetters n).length ∨
        (columnLetters m).length = (columnLetters n).length ∧
          columnLetters m < columnLetters n := by
  refine ⟨?_, ?_, ?_⟩
  · intro column
    have denotes := columnIndex_columnLetters column
    rw [columnLetters_natCast] at denotes ⊢
    have letters : 0 < (lettersOfCount (column + 1)).length :=
      length_lettersOfCount_pos_iff.2 column.succ_pos
    exact ⟨exists_rounds (column + 1), List.ne_nil_of_length_pos letters,
      upperLetter_of_mem_lettersOfCount, denotes⟩
  · intro letters nonempty alpha
    obtain ⟨-, -, start⟩ := columnIndex_bounds alpha
    exact ⟨start nonempty, columnLetters_columnIndex alpha⟩
  · intro m n
    rw [← Nat.succ_lt_succ_iff, lt_iff_shortlex, List.shortlex_def, columnLetters_natCast,
      columnLetters_natCast]
    rfl

/-- The first word of three letters, in either case, stands for the column behind the last of
two. -/
theorem columnLetters_bijective_threeLetters :
    let letters := "aaA".toList
    letters ≠ [] ∧ (∀ c ∈ letters, c.isAlpha) ∧
      columnLetters (columnIndex letters) = "AAA".toList ∧
      columnIndex (columnLetters (701 : Nat)) = 701 ∧ (columnLetters (701 : Nat)).length = 2 := by
  intro letters
  have nonempty : letters ≠ [] := by decide
  have alpha : ∀ c ∈ letters, c.isAlpha := List.all_eq_true.1 (by decide)
  obtain ⟨written, spelled, -⟩ := columnLetters_bijective
  obtain ⟨-, -, -, denotes⟩ := written 701
  exact ⟨nonempty, alpha, (spelled letters nonempty alpha).2, denotes, by decide +kernel⟩

end SlideMerge.Sheet
