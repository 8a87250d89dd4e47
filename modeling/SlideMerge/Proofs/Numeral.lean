import Mathlib.Algebra.Group.Nat.Defs
import Mathlib.Data.List.Induction
import Mathlib.Tactic.Ring
import SlideMerge.Numeric.Numeral

/-!
# Numbers that are read back

A number is written in the digits `0` to `9`, with zeros before them where a width asks for some,
and the digits of any script are read. So what has been written is read back (`digitsValue_decimal`,
`digitsValue_paddedDecimal`). No digit is a blank, so a number at the end of a text keeps its digits
when the blanks around the text are taken away.
-/

namespace SlideMerge.Text

/-! ## Digits and blanks -/

theorem digitValue?_of_ascii {c : Char} (h : c.isDigit) : digitValue? c = some (c.toNat - 48) := by
  have bounds : 48 ≤ c.toNat ∧ c.toNat ≤ 57 := Char.isDigit_iff_toNat.1 h
  have first : 48 ≤ c.toNat ∧ c.toNat < 48 + 10 := by omega
  rw [digitValue?, digitZeros, List.findSome?_cons, if_pos first]

theorem isDigit_of_ascii {c : Char} (h : c.isDigit) : isDigit c := by
  rw [isDigit, digitValue?_of_ascii h]
  rfl

theorem exists_digitZero {c : Char} (h : isDigit c) :
    ∃ first ∈ digitZeros, first ≤ c.toNat ∧ c.toNat < first + 10 := by
  obtain ⟨n, hn⟩ := Option.isSome_iff_exists.1 h
  obtain ⟨first, hf, hz⟩ := List.exists_of_findSome?_eq_some hn
  refine ⟨first, hf, ?_⟩
  by_contra apart
  rw [if_neg apart] at hz
  cases hz

theorem blankRanges_apart :
    ∀ first ∈ digitZeros, ∀ range ∈ blankRanges, range.2 < first ∨ first + 10 ≤ range.1 := by
  decide

theorem isBlank_of_isDigit {c : Char} (h : isDigit c) : isBlank c = false := by
  obtain ⟨first, hf, run⟩ := exists_digitZero h
  refine Bool.eq_false_iff.2 fun blank => ?_
  obtain ⟨range, hr, inside⟩ := List.any_eq_true.1 blank
  have bounds : range.1 ≤ c.toNat ∧ c.toNat ≤ range.2 := by simpa using inside
  have apart := blankRanges_apart first hf range hr
  omega

/-! ## The value of a run of digits -/

theorem digitsValue_concat (cs : List Char) (c : Char) :
    digitsValue (cs ++ [c]) = 10 * digitsValue cs + (digitValue? c).getD 0 := by
  rw [digitsValue, List.foldl_append]
  rfl

theorem digitsValue_lt (cs : List Char) : digitsValue cs < 10 ^ cs.length := by
  induction cs using List.reverseRecOn with
  | nil => decide
  | append_singleton cs c ih =>
    have digit : (digitValue? c).getD 0 < 10 := by
      cases hc : digitValue? c with
      | none => decide
      | some d => exact digitValue?_lt hc
    rw [digitsValue_concat, List.length_append, List.length_singleton, Nat.pow_succ]
    omega

/-- Two runs one after the other. -/
theorem digitsValue_append (cs ds : List Char) :
    digitsValue (cs ++ ds) = digitsValue cs * 10 ^ ds.length + digitsValue ds := by
  induction ds using List.reverseRecOn with
  | nil => simp
  | append_singleton ds d ih =>
    rw [← List.append_assoc, digitsValue_concat, digitsValue_concat, ih, List.length_append,
      List.length_singleton, Nat.pow_succ]
    ring

theorem digitsValue_zeros (k : Nat) (cs : List Char) :
    digitsValue (List.replicate k '0' ++ cs) = digitsValue cs := by
  induction k with
  | zero => rfl
  | succ k ih =>
    rw [List.replicate_succ, List.cons_append, ← ih]
    rfl

end SlideMerge.Text

namespace SlideMerge.Numeric

open Text

/-! ## Numbers as they are written -/

theorem decimal_injective : Function.Injective decimal := by
  intro m n h
  rw [← Nat.ofDigitChars_ten_toDigits (n := m), ← Nat.ofDigitChars_ten_toDigits (n := n)]
  exact congrArg (Nat.ofDigitChars 10 · 0) h

theorem decimalInt_natCast (n : Nat) : decimalInt n = decimal n := by
  rw [decimalInt]
  simp

theorem decimal_ne_nil (n : Nat) : decimal n ≠ [] :=
  Nat.toDigits_ne_nil

theorem ascii_of_mem_decimal {n : Nat} {c : Char} (h : c ∈ decimal n) : c.isDigit :=
  Nat.isDigit_of_mem_toDigits (by decide) (by decide) h

theorem isDigit_of_mem_decimal {n : Nat} {c : Char} (h : c ∈ decimal n) : isDigit c :=
  isDigit_of_ascii (ascii_of_mem_decimal h)

theorem digitValue?_digitChar_eq {d : Nat} (h : d < 10) :
    digitValue? (Nat.digitChar d) = some d := by
  have code : (Nat.digitChar d).toNat = 48 + d := Nat.toNat_digitChar_of_lt_ten h
  have bounds : 48 ≤ (Nat.digitChar d).toNat ∧ (Nat.digitChar d).toNat ≤ 57 := by omega
  have ascii : (Nat.digitChar d).isDigit := Char.isDigit_iff_toNat.2 bounds
  rw [digitValue?_of_ascii ascii, code, Nat.add_sub_cancel_left]

theorem digitValue?_digitChar {d : Nat} (h : d < 10) :
    (digitValue? (Nat.digitChar d)).getD 0 = d := by
  rw [digitValue?_digitChar_eq h, Option.getD_some]

/-- **A number that has been written is read back.** -/
theorem digitsValue_decimal (n : Nat) : digitsValue (decimal n) = n := by
  induction n using Nat.strongRecOn with
  | _ n ih =>
    by_cases hn : n < 10
    · rw [decimal, Nat.toDigits_of_lt_base hn, ← List.nil_append [n.digitChar], digitsValue_concat,
        digitValue?_digitChar hn, digitsValue_nil, Nat.mul_zero, Nat.zero_add]
    · have last : n % 10 < 10 := Nat.mod_lt n (by decide)
      have shorter : n / 10 < n := by omega
      have front : digitsValue (Nat.toDigits 10 (n / 10)) = n / 10 := ih (n / 10) shorter
      rw [decimal, Nat.toDigits_of_base_le (by decide) (Nat.not_lt.1 hn), digitsValue_concat, front,
        digitValue?_digitChar last]
      exact Nat.div_add_mod n 10

/-- A number other than zero is written without a zero in front. -/
theorem head?_decimal {n : Nat} (h : n ≠ 0) : (decimal n).head? ≠ some '0' := by
  induction n using Nat.strongRecOn with
  | _ n ih =>
    by_cases hn : n < 10
    · have zero : Nat.digitChar 0 = '0' := rfl
      rw [decimal, Nat.toDigits_of_lt_base hn, List.head?_cons, ← zero]
      intro same
      have value := congrArg Char.toNat (Option.some.inj same)
      rw [Nat.toNat_digitChar_of_lt_ten hn, Nat.toNat_digitChar_of_lt_ten (by decide)] at value
      omega
    · have split : decimal n = decimal (n / 10) ++ [Nat.digitChar (n % 10)] :=
        Nat.toDigits_of_base_le (by decide) (Nat.not_lt.1 hn)
      have first := List.head?_eq_some_head (decimal_ne_nil (n / 10))
      rw [split, List.head?_append, first, Option.some_or, ← first]
      exact ih (n / 10) (by omega) (by omega)

theorem comma_not_mem_of_isDigit {cs : List Char} (h : ∀ c ∈ cs, c.isDigit) : ',' ∉ cs := by
  intro comma
  cases h ',' comma

/-- **The digits are what is left of their groups without the commas.** -/
theorem filter_groupThousands (n : Nat) :
    (groupThousands (decimal n)).filter (· != ',') = decimal n := by
  have noComma : ',' ∉ (decimal n).reverse :=
    comma_not_mem_of_isDigit fun _ h => ascii_of_mem_decimal (List.mem_reverse.1 h)
  rw [groupThousands, List.filter_reverse, filter_commaEveryThird _ noComma, List.reverse_reverse]

theorem isDigit_of_mem_groupThousands {n : Nat} {c : Char} (h : c ∈ groupThousands (decimal n))
    (hc : c ≠ ',') : isDigit c := by
  have inside : c ∈ (groupThousands (decimal n)).filter (· != ',') :=
    List.mem_filter.2 ⟨h, by simpa using hc⟩
  rw [filter_groupThousands] at inside
  exact isDigit_of_mem_decimal inside

section Padded

variable {width n : Nat}

theorem digitsValue_paddedDecimal : digitsValue (paddedDecimal width n) = n := by
  rw [paddedDecimal, digitsValue_zeros, digitsValue_decimal]

theorem ascii_of_mem_paddedDecimal {c : Char} (h : c ∈ paddedDecimal width n) : c.isDigit := by
  rcases List.mem_append.1 h with zero | digit
  · rw [List.eq_of_mem_replicate zero]
    rfl
  · exact ascii_of_mem_decimal digit

theorem isDigit_of_mem_paddedDecimal {c : Char} (h : c ∈ paddedDecimal width n) : isDigit c :=
  isDigit_of_ascii (ascii_of_mem_paddedDecimal h)

/-- A number that is not too long has the digits of the width. -/
theorem length_paddedDecimal (hw : 0 < width) (h : n < 10 ^ width) :
    (paddedDecimal width n).length = width := by
  have short : (decimal n).length ≤ width :=
    (Nat.length_toDigits_le_iff (by decide) hw).2 h
  rw [paddedDecimal, List.length_append, List.length_replicate]
  omega

end Padded

end SlideMerge.Numeric
