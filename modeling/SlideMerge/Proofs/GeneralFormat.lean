import SlideMerge.Proofs.Scientific

/-!
# The general format of a double

Doubles that are integers below `10^15` are written like integers. Of every other finite double the
general format shows the nearest decimal with eleven significant digits.

* **Shortening.** The zeros at the end of a fraction are dropped, and the point with them if no
  digit is left behind it (`WrittenDecimal.stripFraction_text`). That does not change the value
  (`WrittenDecimal.value_shortened`).
* **Layout.** A decimal whose exponent is moderate is written by itself, and any other as a mantissa
  and an exponent (`ScientificDecimal.Laidout`). Which of the two it is depends on the exponent
  after rounding (`ScientificDecimal.laidout_significantText`).

Main result: `formatGeneral_finite`.
-/

namespace SlideMerge.Numeric

open Text

/-! ## Shortening -/

theorem digitsValue_append_zeros (cs : List Char) (k : Nat) :
    digitsValue (cs ++ List.replicate k '0') = digitsValue cs * 10 ^ k := by
  have zeros : digitsValue (List.replicate k '0') = 0 := by
    have none := digitsValue_zeros k []
    rwa [List.append_nil] at none
  rw [digitsValue_append, zeros, List.length_replicate, add_zero]

namespace WrittenDecimal

/-- Without a zero at the end of its fraction. -/
def IsShort (d : WrittenDecimal) : Prop :=
  ∀ c ∈ d.fraction.getLast?, c ≠ '0'

/-- The decimal without the zeros at the end of its fraction. -/
def shortened (d : WrittenDecimal) : WrittenDecimal :=
  { d with
    fraction := d.fraction.rdropWhile (· == '0')
    fraction_digits := fun c hc => d.fraction_digits c ((List.rdropWhile_prefix _ _).subset hc) }

variable (d : WrittenDecimal)

theorem isShort_shortened : d.shortened.IsShort :=
  getLast?_rdropWhile '0' d.fraction

/-- The digits that are kept, and the zeros that are dropped. -/
theorem exists_fraction_eq : ∃ k, d.fraction = d.shortened.fraction ++ List.replicate k '0' :=
  ⟨_, (rdropWhile_append_replicate '0' d.fraction).symm⟩

/-- **Zeros at the end of a fraction have no value.** -/
theorem value_shortened : d.shortened.value = d.value := by
  obtain ⟨k, fraction⟩ := d.exists_fraction_eq
  have units : d.units = d.shortened.units * 10 ^ k := by
    rw [WrittenDecimal.units, fraction, ← List.append_assoc, digitsValue_append_zeros]
    rfl
  have power : (10 : Rat) ^ k ≠ 0 := by positivity
  rw [value, value, units, fraction, List.length_append, List.length_replicate, pow_add]
  push_cast
  exact (mul_div_mul_right _ _ power).symm

/-- **A fraction is shortened at its end,** and its point is dropped with its last digit. -/
theorem stripFraction_text (h : d.fraction ≠ []) : stripFraction d.text = d.shortened.text := by
  obtain ⟨k, fraction⟩ := d.exists_fraction_eq
  have short := d.isShort_shortened
  have digits := d.shortened.fraction_digits
  have whole : d.shortened.whole = d.whole := rfl
  have zeros : ∀ c ∈ List.replicate k '0', (c == '0') = true := by simp
  have reversed : d.text.reverse =
      List.replicate k '0' ++ (d.shortened.fraction.reverse ++ '.' :: d.whole.reverse) := by
    rw [text, if_neg h, fraction]
    simp
  rw [IsShort, ← List.head?_reverse] at short
  rw [stripFraction, reversed, text, whole]
  cases kept : d.shortened.fraction.reverse with
  | nil =>
    have none : d.shortened.fraction = [] := List.reverse_eq_nil_iff.1 kept
    have point : ∀ c ∈ ([] ++ '.' :: d.whole.reverse).head?, (c == '0') = false := by
      rintro c ⟨⟩
      rfl
    rw [dropWhile_run zeros point, if_pos none]
    simp
  | cons last others =>
    have some : d.shortened.fraction = others.reverse ++ [last] := by
      rw [← List.reverse_reverse d.shortened.fraction, kept, List.reverse_cons]
    have digit : last.isDigit := digits last (by simp [some])
    have other : last ≠ '.' := by
      rintro rfl
      cases digit
    have stop : ∀ c ∈ (last :: others ++ '.' :: d.whole.reverse).head?, (c == '0') = false := by
      rintro c ⟨⟩
      rw [kept] at short
      simpa using short last rfl
    have filled : d.shortened.fraction ≠ [] := by simp [some]
    rw [dropWhile_run zeros stop, if_neg filled, some]
    simp [other]

theorem text_shortened :
    d.shortened.text = if d.fraction = [] then d.text else stripFraction d.text := by
  split_ifs with none
  · have kept : d.shortened.fraction = d.fraction := by
      obtain ⟨k, fraction⟩ := d.exists_fraction_eq
      rw [none] at fraction ⊢
      exact (List.append_eq_nil_iff.1 fraction.symm).1
    rw [text, text, kept]
    rfl
  · exact (d.stripFraction_text none).symm

theorem filter_text : d.text.filter Char.isDigit = d.whole ++ d.fraction := by
  have whole : d.whole.filter Char.isDigit = d.whole := List.filter_eq_self.2 d.whole_digits
  have fraction : d.fraction.filter Char.isDigit = d.fraction :=
    List.filter_eq_self.2 d.fraction_digits
  have point : ('.' : Char).isDigit = false := rfl
  rw [text, List.filter_append, whole]
  split_ifs with none
  · rw [none]
    rfl
  · rw [List.filter_cons_of_neg (by simp [point]), fraction]

variable {d}

theorem units_eq_of_text {e : WrittenDecimal} (h : d.text = e.text) : d.units = e.units := by
  rw [units, ← d.filter_text, h, e.filter_text, units]

theorem fraction_eq_nil_iff {places : Nat} (h : d.fraction.length = places) :
    d.fraction = [] ↔ places = 0 := by
  rw [← h, List.length_eq_zero_iff]

theorem text_shortened_ofUnits (places units : Nat) : (ofUnits places units).shortened.text =
    if places = 0 then fixedText 0 false units
    else stripFraction (fixedText places false units) := by
  have empty := fraction_eq_nil_iff (length_fraction_ofUnits places units)
  simp only [text_shortened, empty, text_ofUnits]
  by_cases none : places = 0
  · rw [if_pos none, if_pos none, none]
  · rw [if_neg none, if_neg none]

theorem isDigit_or_point_of_mem_text {c : Char} (h : c ∈ d.text) : c.isDigit ∨ c = '.' := by
  rw [text, List.mem_append] at h
  rcases h with whole | fraction
  · exact .inl (d.whole_digits c whole)
  · split_ifs at fraction
    · cases fraction
    · rcases List.mem_cons.1 fraction with point | digit
      · exact .inr point
      · exact .inl (d.fraction_digits c digit)

end WrittenDecimal

/-! ## Layout -/

namespace ScientificDecimal

/-- The layout of a decimal in so many significant digits. Neither of its two forms has a zero at
the end of its fraction, or a point without a digit behind it. -/
inductive Laidout (precision : Nat) (mark : Char) (d : ScientificDecimal) : List Char → Prop
  /-- The decimal by itself, if its exponent is at least `-4` and less than the precision. -/
  | positional (w : WrittenDecimal) (moderate : -4 ≤ d.exponent ∧ d.exponent < precision)
      (value : w.value = d.value) (short : w.IsShort) : Laidout precision mark d w.text
  /-- The mantissa, and an exponent that is always signed and has at least two digits. -/
  | exponential (w : WrittenDecimal) (digits : List Char)
      (extreme : d.exponent < -4 ∨ precision ≤ d.exponent) (whole : w.whole = d.mantissa.whole)
      (value : w.value = d.mantissa.value) (short : w.IsShort)
      (padded : PaddedDigits 2 d.exponent.natAbs digits) :
      Laidout precision mark d (w.text ++ mark :: (if d.exponent < 0 then '-' else '+') :: digits)

variable {precision : Nat} {mark : Char} {d : ScientificDecimal}

/-- **A number in so many significant digits is the nearest decimal with so many,** and is laid out
by its exponent. -/
theorem laidout_significantText {q : Rat} (h : 0 < q) (places : Nat) (mark : Char) :
    ∃ d : ScientificDecimal, d.places = places ∧ d.IsNearest q ∧
      d.Laidout (places + 1) mark (significantText (places + 1) mark q) := by
  obtain ⟨d, count, nearest, text, exponent, -⟩ := exists_ofRat h places
  refine ⟨d, count, nearest, ?_⟩
  set s := Scientific.ofRat places q with rounded
  have units : d.mantissa.units = s.digits := by
    rw [WrittenDecimal.units_eq_of_text
      (text.trans (WrittenDecimal.text_ofUnits places s.digits).symm),
      WrittenDecimal.units_ofUnits]
  have mantissa :
      (if places = 0 then fixedText 0 false s.digits else stripFraction (s.mantissaText places)) =
      d.mantissa.shortened.text := by
    have empty := WrittenDecimal.fraction_eq_nil_iff (d := d.mantissa) count
    rw [WrittenDecimal.text_shortened, text]
    simp only [empty]
    by_cases none : places = 0
    · rw [if_pos none, if_pos none, none]
      rfl
    · rw [if_neg none, if_neg none]
  rw [significantText]
  dsimp only
  rw [Nat.add_sub_cancel, ← rounded, mantissa, ← WrittenDecimal.text_shortened_ofUnits, ← exponent]
  by_cases moderate : -4 ≤ d.exponent ∧ d.exponent < (places + 1 : Nat)
  · rw [if_pos moderate]
    refine .positional _ moderate ?_ (WrittenDecimal.isShort_shortened _)
    have scale : d.exponent - places = -(((places : Int) - d.exponent).toNat : Int) := by omega
    rw [WrittenDecimal.value_shortened, WrittenDecimal.value_ofUnits, value_eq, units, count, scale,
      zpow_neg, zpow_natCast, div_eq_mul_inv]
  · rw [if_neg moderate]
    refine .exponential _ _ ?_ rfl (WrittenDecimal.value_shortened _)
      (WrittenDecimal.isShort_shortened _)
      (paddedDigits_paddedDecimal (by decide) _)
    omega

/-- A layout has no other letter than its mark. -/
theorem Laidout.not_mem {text : List Char} (h : d.Laidout precision mark text) {c : Char}
    (letter : c ∉ ['.', '-', '+']) (noDigit : c.isDigit = false) (other : c ≠ mark) : c ∉ text := by
  simp only [List.mem_cons, List.not_mem_nil, or_false, not_or] at letter
  have plain (w : WrittenDecimal) : c ∉ w.text := by
    intro inside
    rcases WrittenDecimal.isDigit_or_point_of_mem_text inside with digit | point
    · exact absurd digit (Bool.eq_false_iff.1 noDigit)
    · exact letter.1 point
  cases h with
  | positional w => exact plain w
  | exponential w digits extreme whole value short padded =>
    have exponent : c ∉ digits := fun inside => Bool.eq_false_iff.1 noDigit (padded.digits c inside)
    have sign : c ≠ if d.exponent < 0 then '-' else '+' := by
      split_ifs
      · exact letter.2.1
      · exact letter.2.2
    simp only [List.mem_append, List.mem_cons, not_or]
    exact ⟨plain w, other, sign, exponent⟩

end ScientificDecimal

end SlideMerge.Numeric

namespace SlideMerge.Format

open Numeric Sheet Text

/-! ## The general format -/

/-- The integers that a double is written as. -/
def IsShortInteger (q : Rat) : Prop :=
  (∃ n : Int, q = n) ∧ |q| < 10 ^ 15

section Finite

variable {x : Double} {q : Rat} (h : x.toRat? = some q)

include h

theorem generalReal_of_isShortInteger (short : IsShortInteger q) :
    generalReal x =
      (if q < 0 then ['-'] else []) ++ (WrittenDecimal.ofUnits 0 q.num.natAbs).text := by
  obtain ⟨⟨n, rfl⟩, small⟩ := short
  have integer : x.toInt? = some n := by simp [Double.toInt?, h]
  have limit : n.natAbs < generalIntegerLimit := by
    have cast : ((n.natAbs : Nat) : Rat) < 10 ^ 15 := by rwa [Nat.cast_natAbs, Int.cast_abs]
    exact_mod_cast cast
  have digits : (WrittenDecimal.ofUnits 0 n.natAbs).text = decimal n.natAbs := by
    rw [WrittenDecimal.text_ofUnits, fixedText, wholeDigits, Nat.pow_eq, Nat.pow_zero, Nat.div_one]
    exact List.append_nil _
  have sign : (n : Rat) < 0 ↔ n < 0 := Int.cast_lt_zero
  rw [generalReal, integer, h]
  dsimp only
  rw [if_pos limit, decimalInt, Rat.num_intCast, digits]
  by_cases negative : n < 0
  · rw [if_pos negative, if_pos (sign.2 negative)]
    rfl
  · rw [if_neg negative, if_neg (mt sign.1 negative)]
    rfl

theorem generalReal_of_not_isShortInteger (long : ¬ IsShortInteger q) :
    generalReal x = (if q < 0 then ['-'] else []) ++ significantText generalPrecision 'E' |q| := by
  by_cases integral : ∃ n : Int, q = n
  · obtain ⟨n, rfl⟩ := integral
    have integer : x.toInt? = some n := by simp [Double.toInt?, h]
    have magnitude : ((n.natAbs : Nat) : Rat) = |(n : Rat)| := by rw [Nat.cast_natAbs, Int.cast_abs]
    have limit : ¬ n.natAbs < generalIntegerLimit := by
      intro small
      refine long ⟨⟨n, rfl⟩, ?_⟩
      rw [← magnitude]
      exact_mod_cast small
    rw [generalReal, integer, h]
    dsimp only
    rw [if_neg limit, magnitude]
  · have fractional : x.toInt? = none := by
      rw [Double.toInt?, h]
      exact if_neg fun whole => integral ⟨q.num, ((Rat.den_eq_one_iff q).1 whole).symm⟩
    rw [generalReal, fractional, h]
    dsimp only
    by_cases negative : q < 0
    · rw [if_pos negative, if_pos negative, abs_of_neg negative]
      rfl
    · rw [if_neg negative, if_neg negative, abs_of_nonneg (not_lt.1 negative)]
      rfl

end Finite

/-- **The general format of a finite double** is a text behind a minus sign if the double is below
zero. If the double is an integer below `10^15`, the text is that integer. Otherwise it is the
nearest decimal with eleven significant digits, an even one if another is just as near. The decimal
is written by itself if its exponent is from `-4` to `10`, and as a mantissa and an exponent after
`E` if not. -/
theorem formatGeneral_finite {x : Double} {q : Rat} (h : x.toRat? = some q) :
    ∃ text, formatGeneral (.real x) = (if q < 0 then ['-'] else []) ++ text ∧
      (IsShortInteger q → ∃ w : WrittenDecimal, w.fraction = [] ∧ w.value = |q| ∧ text = w.text) ∧
      (¬ IsShortInteger q →
        ∃ d : ScientificDecimal, d.places = 10 ∧ d.IsNearest |q| ∧ d.Laidout 11 'E' text) ∧
      'e' ∉ formatGeneral (.real x) := by
  have minus : 'e' ∉ if q < 0 then ['-'] else [] := by
    split_ifs <;> decide
  have general : formatGeneral (.real x) = generalReal x := rfl
  by_cases short : IsShortInteger q
  · have shown := generalReal_of_isShortInteger h short
    refine ⟨_, general.trans shown, fun _ => ⟨_, rfl, ?_, rfl⟩, fun long => absurd short long, ?_⟩
    · obtain ⟨⟨n, rfl⟩, -⟩ := short
      rw [WrittenDecimal.value_ofUnits, Rat.num_intCast, Nat.cast_natAbs, Int.cast_abs, pow_zero,
        div_one]
    · rw [general, shown, List.mem_append, not_or]
      refine ⟨minus, fun inside => ?_⟩
      rcases WrittenDecimal.isDigit_or_point_of_mem_text inside with digit | point
      · cases digit
      · cases point
  · have shown := generalReal_of_not_isShortInteger h short
    have nonzero : q ≠ 0 := by
      rintro rfl
      exact short ⟨⟨0, rfl⟩, by norm_num⟩
    obtain ⟨d, places, nearest, laidout⟩ :=
      ScientificDecimal.laidout_significantText (abs_pos.2 nonzero) 10 'E'
    refine ⟨_, general.trans shown, fun integer => absurd integer short,
      fun _ => ⟨d, places, nearest, laidout⟩, ?_⟩
    rw [general, shown, List.mem_append, not_or]
    exact ⟨minus, laidout.not_mem (by decide) rfl (by decide)⟩

/-- Whether there is an exponent is seen from the rounded number, which may have one digit more. -/
theorem formatGeneral_finite_carry :
    (Double.ofRat (399999999999 / 4) false).toRat? = some (399999999999 / 4) ∧
      formatGeneral (.real (.ofRat (399999999999 / 4) false)) = "1E+11".toList ∧
      ∃ d : ScientificDecimal, d.places = 10 ∧ d.IsNearest (399999999999 / 4) ∧
        d.Laidout 11 'E' "1E+11".toList := by
  have value : (Double.ofRat (399999999999 / 4) false).toRat? = some (399999999999 / 4) := by
    decide +kernel
  have printed : formatGeneral (.real (.ofRat (399999999999 / 4) false)) = "1E+11".toList := by
    decide +kernel
  have fractional : ¬ IsShortInteger (399999999999 / 4) := by
    rintro ⟨⟨n, integral⟩, -⟩
    have quarters : 399999999999 = n * 4 := by
      exact_mod_cast (div_eq_iff (four_ne_zero' Rat)).1 integral
    omega
  obtain ⟨text, shown, -, nearest, -⟩ := formatGeneral_finite value
  obtain ⟨d, places, near, laidout⟩ := nearest fractional
  rw [printed, if_neg (by norm_num), List.nil_append] at shown
  rw [abs_of_nonneg (by norm_num)] at near
  exact ⟨value, printed, d, places, near, shown ▸ laidout⟩

end SlideMerge.Format
