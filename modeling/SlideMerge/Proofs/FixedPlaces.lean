import SlideMerge.Proofs.DigitBody

/-!
# Numbers in a fixed number of places

A code such as `0.00` rounds the exact value of a double once, to a whole number of units of its
last place, and writes the units down.

* **Rounding.** The nearest integer is at most a half away, and is even where two are equally near
  (`abs_roundEven_sub_le`, `even_roundEven_of_tie`). At the scale of the last place the same holds
  of the units (`abs_fixedUnits_div_sub_le`, `even_fixedUnits_of_tie`).
* **Writing.** What is written is a decimal (`WrittenDecimal`): it has the digits that it should
  have, no zero too many in front, and is read back as the units (`WrittenDecimal.units_ofUnits`).

Main result: `formatNumber_fixedCode`.
-/

namespace SlideMerge.Numeric

open Text

/-! ## Rounding -/

/-- **The nearest integer is at most a half away.** -/
theorem abs_roundEven_sub_le (q : Rat) : |(roundEven q : Rat) - q| ≤ 1 / 2 := by
  have below := Rat.floor_le q
  have above := Rat.lt_floor_add_one q
  push_cast at above
  unfold roundEven
  dsimp only
  split_ifs <;> push_cast <;> rw [abs_le] <;> constructor <;> linarith

/-- **Of two integers that are equally near the even one is taken.** -/
theorem even_roundEven_of_tie {q : Rat} (h : |(roundEven q : Rat) - q| = 1 / 2) :
    Even (roundEven q) := by
  have below := Rat.floor_le q
  have above := Rat.lt_floor_add_one q
  push_cast at above
  rw [Int.even_iff]
  unfold roundEven at h ⊢
  dsimp only at h ⊢
  split_ifs at h ⊢ with near far even
  · rw [abs_of_nonpos (by linarith)] at h
    linarith
  · push_cast at h
    rw [abs_of_nonneg (by linarith)] at h
    linarith
  · exact even
  · omega

section Units

variable {q : Rat} (h : 0 ≤ q) (places : Nat)

include h

theorem cast_fixedUnits : (fixedUnits places q : Rat) = roundEven (q * 10 ^ places) := by
  have scaled : 0 ≤ q * 10 ^ places := mul_nonneg h (by positivity)
  have rounded : 0 ≤ roundEven (q * 10 ^ places) := le_roundEven (by exact_mod_cast scaled)
  have same : ((roundEven (q * 10 ^ places)).toNat : Int) = roundEven (q * 10 ^ places) :=
    Int.toNat_of_nonneg rounded
  rw [fixedUnits]
  exact_mod_cast same

theorem abs_fixedUnits_div_sub : |(fixedUnits places q : Rat) / 10 ^ places - q| =
    |(roundEven (q * 10 ^ places) : Rat) - q * 10 ^ places| / 10 ^ places := by
  have unit : (0 : Rat) < 10 ^ places := by positivity
  rw [cast_fixedUnits h, ← abs_of_pos unit, ← abs_div, abs_of_pos unit, sub_div,
    mul_div_cancel_right₀ q unit.ne']

/-- **The units are at most half a unit away from a magnitude.** -/
theorem abs_fixedUnits_div_sub_le :
    |(fixedUnits places q : Rat) / 10 ^ places - q| ≤ 1 / (2 * 10 ^ places) := by
  rw [abs_fixedUnits_div_sub h, ← div_div]
  exact div_le_div_of_nonneg_right (abs_roundEven_sub_le _) (by positivity)

/-- **Half-way between two units the even one is taken.** -/
theorem even_fixedUnits_of_tie
    (tie : |(fixedUnits places q : Rat) / 10 ^ places - q| = 1 / (2 * 10 ^ places)) :
    Even (fixedUnits places q) := by
  have unit : (10 : Rat) ^ places ≠ 0 := by positivity
  rw [abs_fixedUnits_div_sub h, ← div_div, div_left_inj' unit] at tie
  have even := even_roundEven_of_tie tie
  have same : (fixedUnits places q : Int) = roundEven (q * 10 ^ places) := by
    exact_mod_cast cast_fixedUnits h places
  rw [← same] at even
  exact_mod_cast even

end Units

/-! ## Written decimals -/

/-- A decimal as it is written: the digits before the point, without a zero too many in front, and
the digits after it. -/
structure WrittenDecimal where
  whole : List Char
  fraction : List Char
  whole_digits : ∀ c ∈ whole, c.isDigit
  fraction_digits : ∀ c ∈ fraction, c.isDigit
  whole_ne_nil : whole ≠ []
  leading : whole.head? = some '0' → whole = ['0']

namespace WrittenDecimal

/-- The text of a decimal, which has a point only before digits. -/
def text (d : WrittenDecimal) : List Char :=
  d.whole ++ if d.fraction = [] then [] else '.' :: d.fraction

/-- The number of units of its last place. -/
def units (d : WrittenDecimal) : Nat :=
  digitsValue (d.whole ++ d.fraction)

def value (d : WrittenDecimal) : Rat :=
  d.units / 10 ^ d.fraction.length

theorem value_eq_zero_iff {d : WrittenDecimal} : d.value = 0 ↔ d.units = 0 := by
  have unit : (10 : Rat) ^ d.fraction.length ≠ 0 := by positivity
  rw [value, div_eq_zero_iff, or_iff_left unit]
  exact_mod_cast Iff.rfl

/-- The decimal that so many units of `10^-places` are written as. -/
def ofUnits (places units : Nat) : WrittenDecimal where
  whole := wholeDigits places units
  fraction := if places = 0 then [] else fractionDigits places units
  whole_digits := fun _ h => ascii_of_mem_decimal h
  fraction_digits := by
    intro c hc
    split_ifs at hc
    · cases hc
    · rcases List.mem_append.1 hc with zero | digit
      · rw [List.eq_of_mem_replicate zero]
        rfl
      · exact ascii_of_mem_decimal digit
  whole_ne_nil := decimal_ne_nil _
  leading := by
    intro first
    by_cases empty : units / Nat.pow 10 places = 0
    · rw [wholeDigits, empty]
      rfl
    · exact absurd first (head?_decimal empty)

variable (places n : Nat)

@[simp] theorem length_fraction_ofUnits : (ofUnits places n).fraction.length = places := by
  show (if places = 0 then [] else fractionDigits places n).length = places
  split_ifs with none
  · rw [none]
    rfl
  · have small : n % Nat.pow 10 places < 10 ^ places := Nat.mod_lt n (Nat.pow_pos (by decide))
    exact length_paddedDecimal (Nat.pos_of_ne_zero none) small

/-- **The digits of so many units are read back as the units.** -/
@[simp] theorem units_ofUnits : (ofUnits places n).units = n := by
  have length := length_fraction_ofUnits places n
  rw [units, digitsValue_append, length]
  show digitsValue (decimal (n / Nat.pow 10 places)) * 10 ^ places +
    digitsValue (if places = 0 then [] else fractionDigits places n) = n
  rw [digitsValue_decimal]
  split_ifs with none
  · simp [none]
  · rw [fractionDigits, digitsValue_paddedDecimal]
    exact Nat.div_add_mod' n (10 ^ places)

theorem text_ofUnits : (ofUnits places n).text = fixedText places false n := by
  have length := length_fraction_ofUnits places n
  show wholeDigits places n ++ (if (ofUnits places n).fraction = [] then [] else
    '.' :: (ofUnits places n).fraction) = wholeDigits places n ++ pointed places n
  by_cases none : places = 0
  · have empty : (ofUnits places n).fraction = [] :=
      List.eq_nil_of_length_eq_zero (length.trans none)
    rw [if_pos empty, pointed, if_pos none]
  · have filled : (ofUnits places n).fraction ≠ [] := by
      intro empty
      rw [empty] at length
      exact none length.symm
    rw [if_neg filled, pointed, if_neg none]
    exact congrArg (_ ++ '.' :: ·) (if_neg none)

theorem value_ofUnits : (ofUnits places n).value = n / 10 ^ places := by
  rw [value, units_ofUnits, length_fraction_ofUnits]

end WrittenDecimal

end SlideMerge.Numeric

namespace SlideMerge.Format

open Numeric Text

/-! ## Patterns that do not scale -/

/-- A pattern that does not scale prints the magnitude as it is, unless the literal text has a
percent sign. -/
theorem formatFixed_unscaled {pattern : FixedPattern} {before after : List Char}
    (unscaled : pattern.scaling = 0)
    (percent : '%' ∉ literalText before ∧ '%' ∉ literalText after) (negative : Bool)
    (value : Number) :
    formatFixed pattern before after negative value =
      (fun x => (if negative && (fixedMagnitude pattern x).2 then ['-'] else []) ++
        literalText before ++ (fixedMagnitude pattern x).1 ++ literalText after) <$>
          value.magnitude := by
  have printed : printedDigits pattern value = fixedMagnitude pattern <$> value.magnitude := by
    rw [printedDigits, if_pos unscaled]
    rfl
  rw [formatFixed_eq, if_neg (not_or.2 percent), printed, Functor.map_map]

/-! ## Whole numbers -/

namespace FixedPattern

variable (p : FixedPattern) (n : Nat)

/-- The digits of a whole number, with the zeros behind the point that the pattern asks for. -/
def wholeText : List Char :=
  (if p.grouped then groupThousands (decimal n) else decimal n) ++
    if p.places = 0 then [] else '.' :: List.replicate p.places '0'

theorem wholeText_injective : Function.Injective p.wholeText := by
  intro m n h
  have digits := List.append_cancel_right h
  cases grouped : p.grouped with
  | false => exact decimal_injective (by simpa [grouped] using digits)
  | true =>
    have groups : groupThousands (decimal m) = groupThousands (decimal n) := by
      simpa [grouped] using digits
    rw [← decimal_injective.eq_iff, ← filter_groupThousands, groups, filter_groupThousands]

theorem fixedText_whole : fixedText p.places p.grouped (n * 10 ^ p.places) = p.wholeText n := by
  have unit : 0 < 10 ^ p.places := Nat.pow_pos (by decide)
  have whole : wholeDigits p.places (n * 10 ^ p.places) = decimal n :=
    congrArg decimal (Nat.mul_div_cancel n unit)
  have none : n * 10 ^ p.places % 10 ^ p.places = 0 := Nat.mul_mod_left n _
  have fraction (some : p.places ≠ 0) :
      fractionDigits p.places (n * 10 ^ p.places) = List.replicate p.places '0' := by
    obtain ⟨more, places⟩ := Nat.exists_eq_succ_of_ne_zero some
    rw [fractionDigits, Nat.pow_eq, none, places, List.replicate_succ']
    rfl
  rw [fixedText, whole, wholeText, pointed]
  by_cases none : p.places = 0
  · rw [if_pos none, if_pos none]
  · rw [if_neg none, if_neg none, fraction none]

/-- A whole number between literal text, behind a minus sign if the flag says so. -/
def wholeBetween (p : FixedPattern) (negative : Bool) (before after : List Char) (n : Nat) :
    List Char :=
  (if negative then ['-'] else []) ++ literalText before ++ p.wholeText n ++ literalText after

theorem wholeBetween_injective (negative : Bool) (before after : List Char) :
    Function.Injective (p.wholeBetween negative before after) := by
  intro m n same
  exact p.wholeText_injective (List.append_cancel_left (List.append_cancel_right same))

/-- **A whole number is printed exactly.** -/
theorem fixedMagnitude_natCast {x : Double} (h : x.toRat? = some (n : Rat)) :
    fixedMagnitude p x = (p.wholeText n, n != 0) := by
  have units : fixedUnits p.places n = n * 10 ^ p.places := by
    have scaled : (n : Rat) * 10 ^ p.places = ((n * 10 ^ p.places : Nat) : Int) := by push_cast; rfl
    rw [fixedUnits, scaled, roundEven_intCast, Int.toNat_natCast]
  have unit : 10 ^ p.places ≠ 0 := (Nat.pow_pos (by decide)).ne'
  have zero : (n * 10 ^ p.places != 0) = (n != 0) := by
    rw [Bool.eq_iff_iff, bne_iff_ne, bne_iff_ne, mul_ne_zero_iff, and_iff_left unit]
  rw [fixedMagnitude, h]
  dsimp only
  rw [units, fixedText_whole, zero]

end FixedPattern

/-! ## Codes with a fixed number of places -/

/-- The code `0`, with a point and so many zeros behind it. -/
def fixedCode (places : Nat) : List Char :=
  '0' :: if places = 0 then [] else '.' :: List.replicate places '0'

/-- The code as a body of digits. -/
def fixedBody (places : Nat) : DigitBody where
  whole := ['0']
  fraction := if places = 0 then none else some (List.replicate places '0')
  commas := 0
  whole_places := zeroBody.whole_places
  whole_first := zeroBody.whole_first
  fraction_places := by
    intro digits hd c hc
    split_ifs at hd
    · cases hd
    · obtain rfl := Option.some.inj hd
      rw [List.eq_of_mem_replicate hc]
      rfl
  nonempty := fun none => absurd none (List.cons_ne_nil _ _)

theorem code_fixedBody (places : Nat) : (fixedBody places).code = fixedCode places := by
  by_cases none : places = 0
  · simp [DigitBody.code, DigitBody.ending, fixedBody, fixedCode, none]
  · simp [DigitBody.code, DigitBody.ending, fixedBody, fixedCode, none]

theorem pattern_fixedBody (places : Nat) : (fixedBody places).pattern = ⟨false, places, 0⟩ := by
  have cut : (fixedBody places).whole = ['0'] ++ List.replicate 0 ',' := rfl
  obtain ⟨whole, commas⟩ := DigitBody.cut_unique cut (by simp)
  rw [DigitBody.pattern_eq, whole, commas]
  by_cases none : places = 0
  · rw [none]
    rfl
  · simp [fixedBody, none]

/-- **A fixed number of places is correct rounding.** A finite double is shown as a decimal with
exactly the places of the code, which is at most half a unit of its last place away from the
magnitude of the double, and has an even number of units, and so an even last digit, if it is just
as far away. It follows a minus sign if the double is below zero and the decimal is not zero. -/
theorem formatNumber_fixedCode {x : Double} {q : Rat} (h : x.toRat? = some q) (places : Nat) :
    ∃ d : WrittenDecimal, d.fraction.length = places ∧
      formatNumber (.real x) (fixedCode places) =
        .ok ((if q < 0 ∧ d.value ≠ 0 then ['-'] else []) ++ d.text) ∧
      |d.value - (|q|)| ≤ 1 / (2 * 10 ^ places) ∧
      (|d.value - (|q|)| = 1 / (2 * 10 ^ places) → Even d.units) := by
  let units := fixedUnits places |q|
  refine ⟨.ofUnits places units, WrittenDecimal.length_fraction_ofUnits places units, ?_, ?_, ?_⟩
  · have printed : fixedMagnitude ⟨false, places, 0⟩ x.abs =
        (fixedText places false units, units != 0) := by
      rw [fixedMagnitude, Double.toRat?_abs h]
    have sign : ((Number.real x).isNegative && units != 0) =
        decide (q < 0 ∧ (WrittenDecimal.ofUnits places units).value ≠ 0) := by
      rw [Bool.eq_iff_iff, Bool.and_eq_true, bne_iff_ne, decide_eq_true_eq, ne_eq, ne_eq,
        WrittenDecimal.value_eq_zero_iff, WrittenDecimal.units_ofUnits]
      exact and_congr_left' (Double.isNegative_iff h)
    have noPercent : '%' ∉ literalText [] ∧ '%' ∉ literalText [] := by simp
    have unscaled : (FixedPattern.mk false places 0).scaling = 0 := rfl
    have shown := formatFixed_unscaled unscaled noPercent (Number.real x).isNegative (.real x)
    change _ = Except.ok _ at shown
    dsimp only at shown
    rw [← code_fixedBody, DigitBody.formatNumber_code, pattern_fixedBody, shown, printed, sign,
      WrittenDecimal.text_ofUnits]
    simp
  · rw [WrittenDecimal.value_ofUnits]
    exact abs_fixedUnits_div_sub_le (abs_nonneg q) places
  · rw [WrittenDecimal.value_ofUnits, WrittenDecimal.units_ofUnits]
    exact even_fixedUnits_of_tie (abs_nonneg q) places

/-- An eighth is half-way between twelve and thirteen hundredths. -/
theorem formatNumber_fixedCode_eighth :
    (Double.ofRat (-1 / 8) false).toRat? = some (-1 / 8) ∧
      ∃ d : WrittenDecimal, d.units = 12 ∧
        formatNumber (.real (Double.ofRat (-1 / 8) false)) (fixedCode 2) = .ok ('-' :: d.text) := by
  have value : (Double.ofRat (-1 / 8) false).toRat? = some (-1 / 8) := by decide +kernel
  obtain ⟨d, places, shown, near, tie⟩ := formatNumber_fixedCode value 2
  have magnitude : |(-1 / 8 : Rat)| = 1 / 8 := by norm_num
  have scaled : d.value = d.units / 100 := by
    rw [WrittenDecimal.value, places]
    norm_num
  rw [magnitude, scaled] at near tie
  obtain ⟨low, high⟩ := abs_le.1 near
  have atLeast : (12 : Rat) ≤ d.units := by linarith
  have atMost : (d.units : Rat) ≤ 13 := by linarith
  have atLeast : 12 ≤ d.units := by exact_mod_cast atLeast
  have atMost : d.units ≤ 13 := by exact_mod_cast atMost
  have twelve : d.units = 12 := by
    by_contra other
    have thirteen : d.units = 13 := by omega
    rw [thirteen] at tie
    exact absurd (tie (by norm_num)) (by decide)
  have nonzero : d.value ≠ 0 := by
    rw [scaled, twelve]
    norm_num
  rw [if_pos ⟨by norm_num, nonzero⟩] at shown
  exact ⟨value, d, twelve, shown⟩

end SlideMerge.Format
