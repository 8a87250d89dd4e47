import SlideMerge.Plain.WrittenInteger
import SlideMerge.Proofs.Numeral
import SlideMerge.Proofs.Trimming

/-!
# Integers written in plain data

An integer as it is printed is read back from plain data (`readWritten_decimalInt`), and white space
around it does not matter. What may be taken away from a written integer is not there to be taken:
no plus sign, no zeros before other digits, no point and no underscore.
-/

namespace SlideMerge.Plain

open Text Numeric

/-! ## White space -/

theorem trimWhiteSpace_eq {before cs after : List Char} (hb : ∀ c ∈ before, isWhiteSpace c)
    (ha : ∀ c ∈ after, isWhiteSpace c) (hc : ∀ c ∈ cs, isWhiteSpace c = false) (hn : cs ≠ []) :
    trimWhiteSpace (before ++ cs ++ after) = cs := by
  have start : (before ++ cs ++ after).dropWhile isWhiteSpace = cs ++ after := by
    rw [List.append_assoc]
    refine dropWhile_run hb fun c h => hc c (List.mem_of_mem_head? ?_)
    rwa [List.head?_append_of_ne_nil _ hn] at h
  have stop : (after.reverse ++ cs.reverse).dropWhile isWhiteSpace = cs.reverse := by
    refine dropWhile_run (fun c h => ha c (List.mem_reverse.1 h)) fun c h => ?_
    exact hc c (List.mem_reverse.1 (List.mem_of_mem_head? h))
  rw [trimWhiteSpace, start, List.reverse_append, stop, List.reverse_reverse]

theorem isWhiteSpace_of_not_isBlank {c : Char} (h : isBlank c = false) :
    isWhiteSpace c = false := by
  rw [isWhiteSpace, h, Bool.false_and]

/-! ## Printed integers -/

theorem mem_decimalInt {n : Int} {c : Char} (h : c ∈ decimalInt n) : c = '-' ∨ c.isDigit := by
  rw [decimalInt] at h
  split_ifs at h
  · exact (List.mem_cons.1 h).imp_right ascii_of_mem_decimal
  · exact Or.inr (ascii_of_mem_decimal h)

theorem ofDigits_map_eq {ds : List Char} (h : ∀ c ∈ ds, c.isDigit) :
    ofDigits (ds.map fun c => c.toNat - '0'.toNat) = digitsValue ds := by
  induction ds using List.reverseRecOn with
  | nil => rfl
  | append_singleton ds d ih =>
    have front := ih fun c hc => h c (List.mem_append_left _ hc)
    have last := digitValue?_of_ascii (h d (List.mem_append_right _ (List.mem_singleton_self d)))
    rw [digitsValue_concat, last, ← front, List.map_append, ofDigits, List.foldl_append]
    rfl

theorem takeWhile_decimal (n : Nat) : (decimal n).takeWhile Char.isDigit = decimal n :=
  List.takeWhile_eq_self_iff.2 fun _ => ascii_of_mem_decimal

/-- No zero stands before other digits. -/
theorem length_decimal_of_head? {n : Nat} (h : (decimal n).head? = some '0') :
    (decimal n).length = 1 := by
  by_cases zero : n = 0
  · rw [zero]
    rfl
  · exact absurd h (head?_decimal zero)

theorem head?_decimal_ne_minus (n : Nat) : (decimal n).head? ≠ some '-' := by
  intro minus
  have digit := ascii_of_mem_decimal (List.mem_of_mem_head? minus)
  cases digit

/-- **An integer as it is printed is read back.** -/
theorem readPrinted_decimalInt {n : Int} (short : (decimalInt n).length ≤ maxIntegerDigits) :
    readPrinted (decimalInt n) = .ok n := by
  have magnitude (k : Nat) : ofDigits ((decimal k).map fun c => c.toNat - '0'.toNat) = k := by
    rw [ofDigits_map_eq fun _ => ascii_of_mem_decimal, digitsValue_decimal]
  have usual (k : Nat) : ¬ ((decimal k).isEmpty ∨ (decimal k).head? = some '0' ∧
      1 < (decimal k).length) := by
    rintro (empty | ⟨zero, more⟩)
    · exact decimal_ne_nil k (List.isEmpty_iff.1 empty)
    · exact more.ne' (length_decimal_of_head? zero)
  rw [decimalInt] at short ⊢
  split_ifs at short ⊢ with sign
  -- The limit is on the digits and the sign together.
  · have fits : ¬ maxIntegerDigits <
        (decimal n.natAbs).length +
          (('-' :: decimal n.natAbs).length - (decimal n.natAbs).length) := by
      rw [List.length_cons] at short ⊢
      omega
    simp only [readPrinted, List.head?_cons, List.tail_cons, takeWhile_decimal, magnitude, if_true,
      if_neg (usual n.natAbs), if_neg fits, if_neg (Nat.lt_irrefl _)]
    exact congrArg Except.ok (by omega)
  · have fits : ¬ maxIntegerDigits <
        (decimal n.natAbs).length + ((decimal n.natAbs).length - (decimal n.natAbs).length) := by
      omega
    simp only [readPrinted, takeWhile_decimal, magnitude, if_neg (head?_decimal_ne_minus n.natAbs),
      if_neg (usual n.natAbs), if_neg fits, if_neg (Nat.lt_irrefl _)]
    exact congrArg Except.ok (by omega)

/-! ## Nothing to take away -/

theorem withoutPlus_of_not_mem {cs : List Char} (h : '+' ∉ cs) : withoutPlus cs = cs := by
  unfold withoutPlus
  split
  · exact absurd List.mem_cons_self h
  · rfl

theorem withoutFraction_of_not_mem {cs : List Char} (h : '.' ∉ cs) : withoutFraction cs = cs := by
  have whole : cs.takeWhile (· != '.') = cs := by
    refine List.takeWhile_eq_self_iff.2 fun c hc => bne_iff_ne.2 ?_
    rintro rfl
    exact h hc
  rw [withoutFraction, whole, List.drop_eq_nil_of_le (Nat.le_succ _)]
  rfl

theorem withoutUnderscores_of_not_mem {cs : List Char} (h : '_' ∉ cs) :
    withoutUnderscores cs = cs := by
  rw [withoutUnderscores]
  split_ifs
  · rfl
  · refine List.filter_eq_self.2 fun c hc => bne_iff_ne.2 ?_
    rintro rfl
    exact h hc

theorem withoutLeadingZeros_decimalInt (n : Int) :
    withoutLeadingZeros (decimalInt n) = decimalInt n := by
  by_cases zero : n = 0
  · rw [zero]
    rfl
  · have first : (decimalInt n).head? ≠ some '0' := by
      rw [decimalInt]
      split_ifs
      · simp
      · exact head?_decimal (Int.natAbs_ne_zero.2 zero)
    rw [withoutLeadingZeros, if_neg first]

theorem plain_decimalInt (n : Int) :
    withoutUnderscores (withoutFraction (withoutLeadingZeros (withoutPlus (decimalInt n)))) =
      decimalInt n := by
  have other {c : Char} (hm : c ≠ '-') (hd : c.isDigit = false) : c ∉ decimalInt n := by
    intro hc
    rcases mem_decimalInt hc with minus | digit
    · exact hm minus
    · exact Bool.false_ne_true (hd.symm.trans digit)
  rw [withoutPlus_of_not_mem (other (by decide) rfl), withoutLeadingZeros_decimalInt,
    withoutFraction_of_not_mem (other (by decide) rfl),
    withoutUnderscores_of_not_mem (other (by decide) rfl)]

/-- **White space around a printed integer does not matter.** -/
theorem readWritten_decimalInt {before after : List Char} {n : Int}
    (hb : ∀ c ∈ before, isWhiteSpace c) (ha : ∀ c ∈ after, isWhiteSpace c)
    (short : (decimalInt n).length ≤ maxIntegerDigits) :
    readWritten (String.ofList (before ++ decimalInt n ++ after)) = .ok n := by
  have visible : ∀ c ∈ decimalInt n, isWhiteSpace c = false := by
    intro c hc
    refine isWhiteSpace_of_not_isBlank ?_
    rcases mem_decimalInt hc with rfl | digit
    · rfl
    · exact isBlank_of_isDigit (isDigit_of_ascii digit)
  have nonempty : decimalInt n ≠ [] := by
    rw [decimalInt]
    split_ifs
    · exact List.cons_ne_nil _ _
    · exact decimal_ne_nil _
  rw [readWritten, String.toList_ofList, trimWhiteSpace_eq hb ha visible nonempty, plain_decimalInt]
  exact readPrinted_decimalInt short

end SlideMerge.Plain
