import Mathlib.Data.List.TakeWhile
import SlideMerge.Format.NumberCode
import SlideMerge.Proofs.Double
import SlideMerge.Proofs.Traversal

/-!
# How number codes fail

A number code takes an integer through two operations that can leave the doubles: the product with a
hundred, and the conversion of the result. It takes a double through one, the division by `1000^k`,
for which `1000^k` itself has to be a double.

* **The size of an integer** (`Number.size`) decides whether the first two fail.
* **The commas of the code** bound `k`: a section is a part of the code, and each comma that scales
  is one of the section (`scaling_le_count`).

The third failure, that an infinite number has no exponent, is the one that callers catch.

Main result: `formatNumber_eq_error`.
-/

namespace SlideMerge.Format

open Numeric Text

/-! ## Sections are parts of the code -/

theorem splitFrom_sublist (quoted escaped : Bool) (code : List Char) :
    (splitFrom quoted escaped code).1.Sublist code ∧
      ∀ sec ∈ (splitFrom quoted escaped code).2, sec.Sublist code := by
  induction code generalizing quoted escaped with
  | nil => exact ⟨.slnil, List.forall_mem_nil _⟩
  | cons c rest ih =>
    have kept (quoted escaped : Bool) :
        (consFirst c (splitFrom quoted escaped rest)).1.Sublist (c :: rest) ∧
          ∀ sec ∈ (consFirst c (splitFrom quoted escaped rest)).2, sec.Sublist (c :: rest) :=
      ⟨(ih quoted escaped).1.cons_cons c, fun sec hs => ((ih quoted escaped).2 sec hs).cons c⟩
    rw [splitFrom]
    -- the character stays in the first section, unless it separates it from the others
    split_ifs
    · exact kept quoted false
    · exact kept quoted true
    · exact kept (!quoted) false
    · refine ⟨List.nil_sublist _, List.forall_mem_cons.2 ⟨?_, ?_⟩⟩
      · exact (ih quoted false).1.cons c
      · exact fun sec hs => ((ih quoted false).2 sec hs).cons c
    · exact kept quoted false

theorem getD_sublist {secs : List (List Char)} {code : List Char}
    (h : ∀ sec ∈ secs, sec.Sublist code) (i : Nat) : (secs.getD i []).Sublist code := by
  rw [List.getD_eq_getElem?_getD]
  cases hs : secs[i]? with
  | none => exact List.nil_sublist code
  | some sec => exact h sec (List.mem_of_getElem? hs)

/-- The section that a number is shown with is a part of the code, and shows the number or its
magnitude. -/
theorem numberSection_spec (code : List Char) (value : Number) :
    (numberSection code value).1.Sublist code ∧
      ((numberSection code value).2.1 = value ∨ (numberSection code value).2.1 = value.abs) := by
  have parts := splitFrom_sublist false false code
  rw [numberSection, sections]
  generalize splitFrom false false code = secs at *
  obtain ⟨first, others⟩ := secs
  dsimp only at parts ⊢
  split_ifs
  · exact ⟨getD_sublist parts.2 0, Or.inr rfl⟩
  · exact ⟨getD_sublist parts.2 1, Or.inl rfl⟩
  · exact ⟨parts.1, Or.inl rfl⟩

theorem bracketSymbol_sublist (inner : List Char) : (bracketSymbol inner).Sublist inner := by
  rw [bracketSymbol.eq_def]
  split
  · exact (List.takeWhile_sublist _).cons _
  · exact List.nil_sublist inner

theorem stripFrom_sublist (inner : Option (List Char)) (sec : List Char) :
    (stripFrom inner sec).Sublist ((inner.elim [] ('[' :: ·)) ++ sec) := by
  induction sec generalizing inner with
  | nil =>
    cases inner with
    | none => exact .slnil
    | some inner => simp [stripFrom]
  | cons c rest ih =>
    cases inner with
    | none =>
      rw [stripFrom]
      split_ifs with hc
      · subst hc
        exact ih (some [])
      · exact (ih none).cons_cons c
    | some inner =>
      rw [stripFrom]
      split_ifs with hc
      · exact (((bracketSymbol_sublist inner).cons '[').append ((ih none).cons c))
      · have hi := ih (some (inner ++ [c]))
        simpa using hi

theorem stripBrackets_sublist (sec : List Char) : (stripBrackets sec).Sublist sec :=
  stripFrom_sublist none sec

/-! ## Commas of a pattern -/

theorem chars_markFrom (quoted : Bool) (sec : List Char) : chars (markFrom quoted sec) = sec := by
  fun_induction markFrom quoted sec <;> simp_all [chars]

theorem countP_isComma_le (ms : List Mark) : ms.countP Mark.isComma ≤ (chars ms).count ',' := by
  rw [chars, List.count, List.countP_map]
  refine List.countP_mono_left fun m _ h => ?_
  rw [Mark.isComma, Mark.shows, Bool.and_eq_true] at h
  exact h.2

theorem trailingCommas_le (ms : List Mark) : trailingCommas ms ≤ ms.countP Mark.isComma := by
  have all : (ms.reverse.takeWhile Mark.isComma).countP Mark.isComma = trailingCommas ms :=
    List.countP_eq_length.2 fun m hm => List.mem_takeWhile_imp hm
  rw [← all, ← List.countP_reverse (l := ms)]
  exact (List.takeWhile_sublist _).countP_le

theorem scaling_ofParts_le (whole fraction : List Mark) :
    (FixedPattern.ofParts whole fraction).scaling ≤ (whole ++ fraction).countP Mark.isComma := by
  rw [List.countP_append]
  exact Nat.add_le_add (trailingCommas_le whole) (trailingCommas_le fraction)

theorem scaling_ofParts_nil_le (whole : List Mark) :
    (FixedPattern.ofParts whole []).scaling ≤ whole.countP Mark.isComma :=
  trailingCommas_le whole

theorem scaling_readFraction_le (whole rest : List Mark) :
    (readFraction whole rest).1.scaling ≤ (whole ++ rest).countP Mark.isComma := by
  refine (scaling_ofParts_le whole _).trans (List.Sublist.countP_le ?_)
  refine (List.Sublist.refl whole).append ?_
  conv_rhs => rw [← List.takeWhile_append_dropWhile (p := Mark.isPlaceholder) (l := rest)]
  exact (List.Sublist.refl _).append (List.takeWhile_sublist _)

theorem scaling_readFixed_le {ms after : List Mark} {pattern : FixedPattern}
    (h : readFixed ms = some (pattern, after)) : pattern.scaling ≤ ms.countP Mark.isComma := by
  cases ms with
  | nil => cases h
  | cons m rest =>
    rw [readFixed] at h
    dsimp only at h
    split_ifs at h with hm hp
    · let inWhole (m : Mark) : Bool := m.isPlaceholder || m.isComma
      have whole : (m :: rest.takeWhile inWhole).Sublist (m :: rest) :=
        (List.takeWhile_sublist inWhole).cons_cons m
      have parts : rest.takeWhile inWhole ++ rest.dropWhile inWhole = rest :=
        List.takeWhile_append_dropWhile
      cases hd : rest.dropWhile inWhole with
      | nil =>
        rw [hd] at h
        obtain ⟨rfl, -⟩ := Prod.mk.inj (Option.some.inj h)
        exact (scaling_ofParts_nil_le _).trans whole.countP_le
      | cons point after =>
        rw [hd] at h parts
        dsimp only at h
        -- all that is read but the point, and what is not read
        have read : (m :: rest.takeWhile inWhole ++ after).Sublist (m :: rest) := by
          conv_rhs => rw [← parts]
          exact ((List.Sublist.refl _).append (List.sublist_cons_self point after)).cons_cons m
        split_ifs at h with hp
        · obtain ⟨rfl, -⟩ := Prod.mk.inj (Option.some.inj h)
          exact (scaling_readFraction_le _ after).trans read.countP_le
        · obtain ⟨rfl, -⟩ := Prod.mk.inj (Option.some.inj h)
          exact (scaling_ofParts_nil_le _).trans whole.countP_le
    · obtain ⟨rfl, -⟩ := Prod.mk.inj (Option.some.inj h)
      refine (scaling_readFraction_le [] rest).trans ?_
      exact (List.sublist_cons_self m rest).countP_le

/-- What is found stands in the marks. -/
theorem leftmost_eq_some {α : Type} {p : List Mark → Option α} {ms before : List Mark} {a : α}
    (h : leftmost p ms = some (before, a)) : ∃ tail, ms = before ++ tail ∧ p tail = some a := by
  induction ms generalizing before with
  | nil =>
    obtain ⟨a', hp, he⟩ := Option.map_eq_some_iff.1 h
    obtain ⟨rfl, rfl⟩ := Prod.mk.inj he
    exact ⟨[], rfl, hp⟩
  | cons m rest ih =>
    rw [leftmost] at h
    cases hp : p (m :: rest) with
    | some a' =>
      rw [hp] at h
      obtain ⟨rfl, rfl⟩ := Prod.mk.inj (Option.some.inj h)
      exact ⟨m :: rest, rfl, hp⟩
    | none =>
      rw [hp] at h
      obtain ⟨⟨before', a'⟩, hl, he⟩ := Option.map_eq_some_iff.1 h
      obtain ⟨rfl, rfl⟩ := Prod.mk.inj he
      obtain ⟨tail, rfl, ht⟩ := ih hl
      exact ⟨tail, rfl, ht⟩

/-- **Each comma that scales is a comma of the section.** -/
theorem scaling_le_count {sec : List Char} {before after : List Mark} {pattern : FixedPattern}
    (h : leftmost readFixed (marks sec) = some (before, pattern, after)) :
    pattern.scaling ≤ sec.count ',' := by
  obtain ⟨tail, hm, ht⟩ := leftmost_eq_some h
  calc pattern.scaling ≤ tail.countP Mark.isComma := scaling_readFixed_le ht
    _ ≤ (marks sec).countP Mark.isComma := by
      rw [hm]
      exact (List.sublist_append_right before tail).countP_le
    _ ≤ (chars (marks sec)).count ',' := countP_isComma_le _
    _ = sec.count ',' := by rw [marks, chars_markFrom]

/-! ## Arithmetic -/

/-- The magnitude of an integer. That of a double has no part in what follows. -/
def Number.size : Number → Nat
  | logical b => b.toNat
  | integer n => n.natAbs
  | real _ => 0

/-- A double. -/
def Number.isReal : Number → Bool
  | real _ => true
  | _ => false

/-- A truth value. -/
def Number.isLogical : Number → Bool
  | logical _ => true
  | _ => false

/-- A number whose arithmetic may leave the doubles under a code with so many commas. -/
def Number.Overflows (commas : Nat) (value : Number) : Prop :=
  Double.overflowLimit ≤ 100 * value.size ∨ value.isReal ∧ 103 ≤ commas

theorem Number.Overflows.mono {value : Number} {m n : Nat} (h : value.Overflows m) (hmn : m ≤ n) :
    value.Overflows n :=
  h.imp_right (And.imp_right hmn.trans')

section

variable {value : Number} {fault : NumberFault}

theorem overflowLimit_le_of_doubleOfInt {n : Int} (h : Number.doubleOfInt n = .error fault) :
    Double.overflowLimit ≤ n.natAbs := by
  rw [← not_lt, ← Double.isSome_ofInt?]
  intro finite
  obtain ⟨x, hx⟩ := Option.isSome_iff_exists.1 finite
  rw [Number.doubleOfInt, hx] at h
  cases h

theorem magnitude_integer_eq_error {n : Int} (h : Double.overflowLimit ≤ n.natAbs) :
    (Number.integer n).magnitude = .error .integerTooLarge := by
  have none : Double.ofInt? n.natAbs = none := by
    rw [← Option.not_isSome_iff_eq_none, Double.isSome_ofInt?, Int.natAbs_natCast]
    exact not_lt.2 h
  rw [Number.magnitude, Number.doubleOfInt, none]

theorem size_of_magnitude (h : value.magnitude = .error fault) :
    Double.overflowLimit ≤ value.size := by
  cases value with
  | logical b =>
    have hb := overflowLimit_le_of_doubleOfInt h
    cases b <;> exact hb
  | integer n => exact overflowLimit_le_of_doubleOfInt (n := n.natAbs) h
  | real x => cases h

@[simp] theorem isReal_abs (value : Number) : value.abs.isReal = value.isReal := by
  cases value <;> rfl

@[simp] theorem isReal_timesHundred (value : Number) :
    value.timesHundred.isReal = value.isReal := by
  cases value <;> rfl

@[simp] theorem size_abs (value : Number) : value.abs.size = value.size := by
  cases value with
  | logical b => cases b <;> rfl
  | integer n => exact Int.natAbs_natCast _
  | real x => rfl

@[simp] theorem size_timesHundred (value : Number) :
    value.timesHundred.size = 100 * value.size := by
  cases value with
  | logical b => cases b <;> rfl
  | integer n => exact Int.natAbs_mul 100 n
  | real x => rfl

/-- An integer that is too large remains so when it is divided. -/
theorem size_of_intDivThousands {k : Nat} {n : Int}
    (h : Number.intDivThousands k n = .error fault) : Double.overflowLimit ≤ n.natAbs := by
  have infinite : ¬ (Double.ofRat (n / 1000 ^ k) false).toRat?.isSome := by
    rw [Number.intDivThousands] at h
    generalize Double.ofRat (n / 1000 ^ k) false = x at *
    cases x with
    | infinite negative => exact Bool.false_ne_true
    | nan => cases h
    | finite => cases h
  have one : (1 : Rat) ≤ 1000 ^ k := one_le_pow₀ (by norm_num)
  have quotient : |(n : Rat) / 1000 ^ k| ≤ n.natAbs := by
    rw [abs_div, abs_of_pos (zero_lt_one.trans_le one), Nat.cast_natAbs, Int.cast_abs]
    exact div_le_self (abs_nonneg _) one
  rw [Double.isSome_toRat?_ofRat, not_lt] at infinite
  exact_mod_cast infinite.trans quotient

theorem thousand_pow_lt {k : Nat} (h : k < 103) : Nat.pow 1000 k < Double.overflowLimit := by
  have last : Nat.pow 1000 102 < Double.overflowLimit := by decide +kernel
  exact (Nat.pow_le_pow_right (by decide) (Nat.le_of_lt_succ h)).trans_lt last

/-- A number that cannot be divided by `1000^k` is an integer that is too large, or `k` is. -/
theorem size_of_divThousands {k : Nat} (h : value.divThousands k = .error fault) :
    Double.overflowLimit ≤ value.size ∨ value.isReal ∧ 103 ≤ k := by
  cases value with
  | logical b =>
    have hb := size_of_intDivThousands h
    refine Or.inl ?_
    cases b <;> exact hb
  | integer n => exact Or.inl (size_of_intDivThousands h)
  | real x =>
    refine Or.inr ⟨rfl, ?_⟩
    rcases bind_eq_error.1 h with hk | ⟨y, -, hy⟩
    · by_contra hlt
      have small := thousand_pow_lt (not_le.1 hlt)
      have large := overflowLimit_le_of_doubleOfInt hk
      rw [Int.natAbs_natCast] at large
      omega
    · cases hy

/-- A quotient is a double. -/
theorem exists_real_of_divThousands {k : Nat} {result : Number}
    (h : value.divThousands k = .ok result) : ∃ x, result = .real x := by
  have int {n : Int} (h : Number.intDivThousands k n = .ok result) : ∃ x, result = .real x := by
    rw [Number.intDivThousands] at h
    split at h
    · cases h
    · exact ⟨_, (Except.ok.inj h).symm⟩
  cases value with
  | logical b => exact int h
  | integer n => exact int h
  | real x =>
    obtain ⟨divisor, -, h⟩ := bind_eq_ok.1 h
    exact ⟨_, (Except.ok.inj h).symm⟩

theorem fault_of_doubleOfInt {n : Int} (h : Number.doubleOfInt n = .error fault) :
    fault = .integerTooLarge := by
  rw [Number.doubleOfInt] at h
  split at h
  · cases h
  · exact (Except.error.inj h).symm

theorem fault_of_magnitude (h : value.magnitude = .error fault) : fault = .integerTooLarge := by
  cases value with
  | logical b => exact fault_of_doubleOfInt h
  | integer n => exact fault_of_doubleOfInt h
  | real x => cases h

theorem fault_of_divThousands {k : Nat} (h : value.divThousands k = .error fault) :
    fault ≠ .noExponent := by
  have ofInt {n : Int} (h : Number.intDivThousands k n = .error fault) : fault ≠ .noExponent := by
    rw [Number.intDivThousands] at h
    split at h
    · obtain rfl := Except.error.inj h
      decide
    · cases h
  cases value with
  | logical b => exact ofInt h
  | integer n => exact ofInt h
  | real x =>
    rcases bind_eq_error.1 h with large | ⟨divisor, -, quotient⟩
    · rw [fault_of_doubleOfInt large]
      decide
    · cases quotient

/-! ## The general format -/

theorem two_pow_le_ten_pow (m n : Nat) (h : m ≤ n) : 2 ^ m ≤ 10 ^ n :=
  (Nat.pow_le_pow_left (by decide) m).trans (Nat.pow_le_pow_right (by decide) h)

/-- An integer that is too long to be written is larger than every double. -/
theorem overflowLimit_le_of_not_hasShortText {n : Int} (h : ¬ hasShortText n) :
    Double.overflowLimit ≤ n.natAbs := by
  have limit : Double.overflowLimit ≤ 10 ^ maxIntegerDigits :=
    (Nat.sub_le _ _).trans (two_pow_le_ten_pow 1024 maxIntegerDigits (by decide))
  refine limit.trans (Nat.not_lt.1 fun short => h ?_)
  exact decide_eq_true ((Nat.length_toDigits_le_iff (by decide) (by decide)).2 short)

theorem isWritable_of_size_lt (h : value.size < Double.overflowLimit) :
    value.toValue.isWritable := by
  cases value with
  | integer n =>
    exact not_not.1 fun long => absurd (overflowLimit_le_of_not_hasShortText long) h.not_ge
  | logical | real => rfl

theorem generalText_eq_ok {text : List Char} :
    generalText value = .ok text ↔
      value.toValue.isWritable ∧ text = formatGeneral value.toValue := by
  rw [generalText]
  split_ifs with writable
  · rw [Except.ok.injEq, eq_comm, and_iff_right writable]
  · exact iff_of_false nofun fun h => writable h.1

theorem generalText_eq_error (h : generalText value = .error fault) :
    fault = .tooManyDigits ∧ Double.overflowLimit ≤ value.size := by
  rw [generalText] at h
  split_ifs at h with writable
  refine ⟨(Except.error.inj h).symm, not_lt.1 fun small => writable (isWritable_of_size_lt small)⟩

/-! ## Codes -/

/-- What fails under a pattern without an exponent is the magnitude or the division of the number,
or of a hundred times the number. -/
theorem exists_failure_of_formatFixed {pattern : FixedPattern} {before after : List Char}
    {negative : Bool}
    (h : formatFixed pattern before after negative value = .error fault) :
    ∃ shown : Number, (shown = value ∨ shown = value.timesHundred) ∧
      (shown.magnitude = .error fault ∨ shown.divThousands pattern.scaling = .error fault) := by
  rw [formatFixed] at h
  dsimp only at h
  have choice := ite_eq_or_eq ('%' ∈ literalText before ∨ '%' ∈ literalText after)
    value.timesHundred value
  generalize (if '%' ∈ literalText before ∨ '%' ∈ literalText after then value.timesHundred
    else value) = shown at h choice
  refine ⟨shown, choice.symm, ?_⟩
  by_cases hk : pattern.scaling = 0
  · -- an integer is converted as it is
    rw [if_pos hk] at h
    change shown.magnitude >>= _ = _ at h
    rcases bind_eq_error.1 h with hm | ⟨magnitude, -, h⟩
    · exact .inl hm
    · cases h
  · -- a quotient is a double already, and has a magnitude
    rw [if_neg hk] at h
    rcases bind_eq_error.1 h with hd | ⟨quotient, hd, h⟩
    · exact .inr hd
    · obtain ⟨x, rfl⟩ := exists_real_of_divThousands hd
      cases h

theorem formatFixed_eq_error {pattern : FixedPattern} {before after : List Char} {negative : Bool}
    (h : formatFixed pattern before after negative value = .error fault) :
    value.Overflows pattern.scaling := by
  obtain ⟨shown, hundredfold, failed⟩ := exists_failure_of_formatFixed h
  have same : shown.size ≤ 100 * value.size ∧ shown.isReal = value.isReal := by
    rcases hundredfold with rfl | rfl
    · exact ⟨by omega, rfl⟩
    · exact ⟨(size_timesHundred value).le, isReal_timesHundred value⟩
  rcases failed with hm | hd
  · exact Or.inl ((size_of_magnitude hm).trans same.1)
  · rw [Number.Overflows, ← same.2]
    exact (size_of_divThousands hd).imp_left (·.trans same.1)

/-- **A pattern without an exponent fails for no want of one,** so callers catch none of its
failures. -/
theorem fault_of_formatFixed {pattern : FixedPattern} {before after : List Char} {negative : Bool}
    (h : formatFixed pattern before after negative value = .error fault) : fault ≠ .noExponent := by
  obtain ⟨shown, -, magnitude | divided⟩ := exists_failure_of_formatFixed h
  · rw [fault_of_magnitude magnitude]
    decide
  · exact fault_of_divThousands divided

theorem formatScientific_eq_error {pattern : ScientificPattern} {before after : List Char}
    (h : formatScientific pattern before after value = .error fault) :
    fault = .noExponent ∨ Double.overflowLimit ≤ value.size := by
  rw [formatScientific] at h
  by_cases hw : 1 < pattern.wholeCount
  · rw [if_pos hw] at h
    exact Or.inr (generalText_eq_error h).2
  rw [if_neg hw] at h
  rcases bind_eq_error.1 h with hm | ⟨magnitude, -, h⟩
  · exact Or.inr (size_of_magnitude hm)
  · cases hx : magnitude.toRat? with
    | none =>
      rw [hx] at h
      exact Or.inl (Except.error.inj h).symm
    | some q =>
      rw [hx] at h
      cases h

theorem formatSection_eq_error {sec : List Char} {negative : Bool}
    (h : formatSection sec value negative = .error fault) :
    fault = .noExponent ∨ value.Overflows (sec.count ',') := by
  have general (hg : generalText value = .error fault) : value.Overflows (sec.count ',') := by
    have large := (generalText_eq_error hg).2
    exact Or.inl (by omega)
  rw [formatSection] at h
  split_ifs at h with special
  · exact Or.inr (general h)
  dsimp only at h
  cases hs : leftmost readScientific (marks sec) with
  | some found =>
    rw [hs] at h
    refine (formatScientific_eq_error h).imp_right fun hsize => Or.inl ?_
    omega
  | none =>
    rw [hs] at h
    dsimp only at h
    split_ifs at h with fraction
    · exact Or.inr (general h)
    cases hf : leftmost readFixed (marks sec) with
    | some found =>
      rw [hf] at h
      obtain ⟨before, pattern, after⟩ := found
      exact Or.inr ((formatFixed_eq_error h).mono (scaling_le_count hf))
    | none =>
      rw [hf] at h
      cases h

/-- **How a number code fails.** The number is infinite and its exponent is asked for, or its
arithmetic leaves the doubles. -/
theorem formatNumber_eq_error {code : List Char} (h : formatNumber value code = .error fault) :
    fault = .noExponent ∨ value.Overflows (code.count ',') := by
  obtain ⟨part, shown⟩ := numberSection_spec code value
  rw [formatNumber] at h
  generalize numberSection code value = found at h part shown
  obtain ⟨sec, number, negative⟩ := found
  dsimp only at h part shown
  have commas : (stripBrackets sec).count ',' ≤ code.count ',' :=
    ((stripBrackets_sublist sec).trans part).count_le ','
  have overflows : fault = .noExponent ∨ number.Overflows (code.count ',') :=
    (formatSection_eq_error h).imp_right (·.mono commas)
  rcases shown with rfl | rfl
  · exact overflows
  · simpa only [Number.Overflows, size_abs, isReal_abs] using overflows

end

end SlideMerge.Format
