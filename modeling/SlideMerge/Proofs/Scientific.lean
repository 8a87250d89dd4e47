import SlideMerge.Proofs.Currency
import SlideMerge.Proofs.FixedPlaces

/-!
# Numbers with an exponent

A code such as `0.00E+00` rounds the exact value of a double once, to as many significant digits as
it has zeros before the `E`, and writes them with a point behind the first and with an exponent.

* **The exponent** is the logarithm of the magnitude, which is estimated from the lengths of a
  numerator and a denominator (`log10Floor_eq`). Rounding may carry into the next power of ten.
* **Rounding.** Decimals with so many significant digits (`ScientificDecimal`) are multiples of the
  last place from the power of ten below the magnitude on, and there are none nearer below it. So
  the nearest multiple is the nearest of them all (`ScientificDecimal.isNearest_of_value`).
* **Writing.** The digits of the exponent have zeros in front up to the width of the code and no
  more (`PaddedDigits`).

Main result: `formatNumber_scientificCode`.
-/

namespace SlideMerge.Numeric

open Text

/-! ## Nearest integers -/

section Nearest

variable {q : Rat} {n : Int}

theorem half_le_abs_sub (other : n ≠ roundEven q) : 1 / 2 ≤ |(n : Rat) - q| := by
  have apart : (1 : Rat) ≤ |(n : Rat) - roundEven q| := by
    exact_mod_cast Int.one_le_abs (sub_ne_zero.2 other)
  have between := abs_sub_le (n : Rat) q (roundEven q)
  have near := abs_roundEven_sub_le q
  rw [abs_sub_comm] at near
  linarith

/-- **No integer is nearer than the one that is rounded to.** -/
theorem abs_roundEven_sub_le_abs (q : Rat) (n : Int) :
    |(roundEven q : Rat) - q| ≤ |(n : Rat) - q| := by
  by_cases same : n = roundEven q
  · rw [same]
  · exact (abs_roundEven_sub_le q).trans (half_le_abs_sub same)

/-- **Where another integer is just as near,** an even one is rounded to. -/
theorem even_roundEven_of_equallyNear (other : n ≠ roundEven q)
    (tie : |(roundEven q : Rat) - q| = |(n : Rat) - q|) : Even (roundEven q) :=
  even_roundEven_of_tie (le_antisymm (abs_roundEven_sub_le q) (tie ▸ half_le_abs_sub other))

end Nearest

/-! ## The decimal logarithm -/

theorem ten_zpow_length_decimal {n : Nat} (h : n ≠ 0) :
    (10 : Rat) ^ ((decimal n).length - 1 : Int) ≤ n ∧
      (n : Rat) < 10 ^ ((decimal n).length - 1 + 1 : Int) := by
  obtain ⟨k, length⟩ := Nat.exists_eq_succ_of_ne_zero (List.length_pos_iff.2 (decimal_ne_nil n)).ne'
  have below : n < 10 ^ (k + 1) :=
    (Nat.length_toDigits_le_iff (by decide) (Nat.succ_pos k)).1 length.le
  have above : 10 ^ k ≤ n := by
    by_contra less
    by_cases single : k = 0
    · rw [single] at less
      omega
    · have short := (Nat.length_toDigits_le_iff (by decide) (Nat.pos_of_ne_zero single)).2
          (not_le.1 less)
      change (decimal n).length ≤ k at short
      omega
  rw [length]
  push_cast
  rw [add_sub_cancel_right]
  exact ⟨by exact_mod_cast above, by exact_mod_cast below⟩

theorem log10Floor_eq {q : Rat} (h : 0 < q) : log10Floor q = Int.log 10 q := by
  have filled : q.num.natAbs ≠ 0 := Int.natAbs_ne_zero.2 (Rat.num_pos.2 h).ne'
  have ten : 1 < 10 := by decide
  have estimated := log_eq_of_estimate ten h (ten_zpow_length_decimal filled)
    (ten_zpow_length_decimal q.den_nz)
  rw [sub_sub_sub_cancel_right] at estimated
  exact estimated

/-! ## Decimals with an exponent -/

/-- A decimal with one digit before its point that is not zero, times a power of ten. -/
structure ScientificDecimal where
  mantissa : WrittenDecimal
  exponent : Int
  one_digit : mantissa.whole.length = 1
  leading : mantissa.whole ≠ ['0']

namespace ScientificDecimal

/-- The number of digits behind the point. -/
def places (d : ScientificDecimal) : Nat :=
  d.mantissa.fraction.length

def value (d : ScientificDecimal) : Rat :=
  d.mantissa.value * 10 ^ d.exponent

/-- **No decimal with as many places is nearer** to a positive number. If one of another value is
equally near, the decimal is an even multiple of the last place that the number has. -/
def IsNearest (d : ScientificDecimal) (q : Rat) : Prop :=
  ∀ e : ScientificDecimal, e.places = d.places →
    |d.value - q| ≤ |e.value - q| ∧
      (e.value ≠ d.value → |d.value - q| = |e.value - q| →
        ∃ k : Int, Even k ∧ d.value = k * 10 ^ (Int.log 10 q - d.places))

section Value

variable (d : ScientificDecimal)

theorem value_eq : d.value = d.mantissa.units * 10 ^ (d.exponent - d.places) := by
  have ten : (10 : Rat) ≠ 0 := by norm_num
  rw [value, WrittenDecimal.value, zpow_sub₀ ten, zpow_natCast, places]
  ring

theorem units_lt : d.mantissa.units < 10 ^ (d.places + 1) := by
  have small := digitsValue_lt (d.mantissa.whole ++ d.mantissa.fraction)
  rwa [List.length_append, d.one_digit, Nat.add_comm 1] at small

theorem value_lt : d.value < 10 ^ (d.exponent + 1) := by
  have small : (d.mantissa.units : Rat) < 10 ^ (d.places + 1) := by exact_mod_cast d.units_lt
  have power : (10 : Rat) ^ (d.exponent + 1) =
      10 ^ (d.places + 1) * 10 ^ (d.exponent - d.places) := by
    rw [← zpow_natCast, ← zpow_add₀ (by norm_num)]
    congr 1
    push_cast
    ring
  rw [value_eq, power]
  exact mul_lt_mul_of_pos_right small (zpow_pos (by norm_num) _)

theorem exists_multiple {d : ScientificDecimal} {least : Int} (h : least ≤ d.exponent) :
    ∃ m : Int, d.value = m * 10 ^ (least - d.places) := by
  obtain ⟨k, exponent⟩ := Int.eq_ofNat_of_zero_le (sub_nonneg.2 h)
  refine ⟨d.mantissa.units * 10 ^ k, ?_⟩
  have split : d.exponent - d.places = k + (least - d.places) := by omega
  rw [value_eq, split, zpow_add₀ (by norm_num), zpow_natCast]
  push_cast
  ring

end Value

/-- **The nearest multiple of the last place is the nearest decimal.** -/
theorem isNearest_of_value {d : ScientificDecimal} {q : Rat} (h : 0 < q)
    (rounded : d.value = roundEven (q / 10 ^ (Int.log 10 q - d.places)) * 10 ^
      (Int.log 10 q - d.places)) :
    d.IsNearest q := by
  intro e places
  have unit : (0 : Rat) < 10 ^ (Int.log 10 q - d.places) := zpow_pos (by norm_num) _
  have scaled (n : Int) : |(n : Rat) * 10 ^ (Int.log 10 q - d.places) - q| =
      |n - q / 10 ^ (Int.log 10 q - d.places)| * 10 ^ (Int.log 10 q - d.places) := by
    rw [← abs_of_pos unit, ← abs_mul, abs_of_pos unit, sub_mul, div_mul_cancel₀ q unit.ne']
  have nearest (n : Int) : |d.value - q| ≤ |n * 10 ^ (Int.log 10 q - d.places) - q| := by
    rw [rounded, scaled, scaled]
    exact mul_le_mul_of_nonneg_right (abs_roundEven_sub_le_abs _ n) unit.le
  by_cases low : e.exponent < Int.log 10 q
  · -- the power of ten below the number is nearer than all decimals below that power
    have first : (10 : Rat) ^ Int.log 10 q ≤ q := Int.zpow_log_le_self (by decide) h
    have below : e.value < 10 ^ Int.log 10 q :=
      e.value_lt.trans_le (zpow_le_zpow_right₀ (by norm_num) (by omega))
    have power : ((10 ^ d.places : Int) : Rat) * 10 ^ (Int.log 10 q - d.places) =
        10 ^ Int.log 10 q := by
      push_cast
      rw [← zpow_natCast, ← zpow_add₀ (by norm_num), add_sub_cancel]
    have farther : |d.value - q| < |e.value - q| :=
      calc |d.value - q| ≤ |10 ^ Int.log 10 q - q| := power ▸ nearest (10 ^ d.places)
        _ = q - 10 ^ Int.log 10 q := by rw [abs_sub_comm, abs_of_nonneg (sub_nonneg.2 first)]
        _ < q - e.value := sub_lt_sub_left below q
        _ ≤ |q - e.value| := le_abs_self _
        _ = |e.value - q| := abs_sub_comm _ _
    exact ⟨farther.le, fun _ tie => absurd tie farther.ne⟩
  · obtain ⟨m, multiple⟩ := exists_multiple (not_lt.1 low)
    rw [places] at multiple
    refine ⟨multiple ▸ nearest m, fun other tie => ⟨_, ?_, rounded⟩⟩
    have apart : m ≠ roundEven (q / 10 ^ (Int.log 10 q - d.places)) := by
      intro same
      rw [multiple, same] at other
      exact other rounded.symm
    rw [rounded, multiple, scaled, scaled] at tie
    exact even_roundEven_of_equallyNear apart (mul_right_cancel₀ unit.ne' tie)

/-! ## Rounding to significant digits -/

/-- The decimal with these digits, of which so many stand behind the point. -/
def ofDigits {places digits : Nat} (low : 10 ^ places ≤ digits) (high : digits < 10 ^ (places + 1))
    (exponent : Int) : ScientificDecimal :=
  have unit : 0 < 10 ^ places := Nat.pow_pos (by decide)
  have one : digits / Nat.pow 10 places ≠ 0 := (Nat.div_pos low unit).ne'
  have small : digits / Nat.pow 10 places < 10 := Nat.div_lt_of_lt_mul high
  { mantissa := .ofUnits places digits
    exponent := exponent
    one_digit := by
      show (decimal (digits / Nat.pow 10 places)).length = 1
      rw [decimal, Nat.toDigits_of_lt_base small]
      rfl
    leading := by
      show decimal (digits / Nat.pow 10 places) ≠ ['0']
      intro zero
      exact head?_decimal one (by rw [zero]; rfl) }

section OfDigits

variable {places digits : Nat} (low : 10 ^ places ≤ digits) (high : digits < 10 ^ (places + 1))
  (exponent : Int)

theorem places_ofDigits : (ofDigits low high exponent).places = places :=
  WrittenDecimal.length_fraction_ofUnits places digits

theorem value_ofDigits :
    (ofDigits low high exponent).value = digits * 10 ^ (exponent - places) := by
  have units : (ofDigits low high exponent).mantissa.units = digits :=
    WrittenDecimal.units_ofUnits places digits
  rw [value_eq, units, places_ofDigits]
  rfl

variable {exponent}

theorem isNearest_ofDigits {q : Rat} (h : 0 < q)
    (rounded : (roundEven (q / 10 ^ (Int.log 10 q - places)) : Rat) * 10 ^ (Int.log 10 q - places) =
      digits * 10 ^ (exponent - places)) : (ofDigits low high exponent).IsNearest q := by
  apply isNearest_of_value h
  rw [places_ofDigits, value_ofDigits, rounded]

end OfDigits

/-- A number has so many digits in units of its last place, or it is rounded to the next power of
ten. -/
theorem roundEven_bounds {q : Rat} (h : 0 < q) (places : Nat) :
    (10 : Int) ^ places ≤ roundEven (q / 10 ^ (Int.log 10 q - places)) ∧
      roundEven (q / 10 ^ (Int.log 10 q - places)) ≤ 10 ^ (places + 1) := by
  have ten : (10 : Rat) ≠ 0 := by norm_num
  have unit : (0 : Rat) < 10 ^ (Int.log 10 q - places) := zpow_pos (by norm_num) _
  constructor
  · apply le_roundEven
    have first : (10 : Rat) ^ Int.log 10 q ≤ q := Int.zpow_log_le_self (by decide) h
    rw [le_div_iff₀ unit]
    push_cast
    rwa [← zpow_natCast, ← zpow_add₀ ten, add_sub_cancel]
  · apply roundEven_le
    have next : q < (10 : Rat) ^ (Int.log 10 q + 1) := Int.lt_zpow_succ_log_self (by decide) q
    have exponent : ((places + 1 : Nat) : Int) + (Int.log 10 q - places) = Int.log 10 q + 1 := by
      push_cast
      ring
    rw [div_lt_iff₀ unit]
    push_cast
    rwa [← zpow_natCast, ← zpow_add₀ ten, exponent]

/-- **The digits of a rounded number are those of the nearest decimal.** Its exponent is the
logarithm of the number, or one more than that where rounding carries. -/
theorem exists_ofRat {q : Rat} (h : 0 < q) (places : Nat) :
    ∃ d : ScientificDecimal, d.places = places ∧ d.IsNearest q ∧
      d.mantissa.text = (Scientific.ofRat places q).mantissaText places ∧
      d.exponent = (Scientific.ofRat places q).exponent ∧
      (d.exponent = Int.log 10 q ∨ d.exponent = Int.log 10 q + 1 ∧ d.mantissa.value = 1) := by
  obtain ⟨low, high⟩ := roundEven_bounds h places
  obtain ⟨digits, rounded⟩ := Int.eq_ofNat_of_zero_le (low.trans' (by positivity))
  rw [rounded] at low high
  have low : 10 ^ places ≤ digits := by exact_mod_cast low
  have high : digits ≤ 10 ^ (places + 1) := by exact_mod_cast high
  have result : Scientific.ofRat places q = if digits = 10 ^ (places + 1) then
      ⟨10 ^ places, Int.log 10 q + 1⟩ else ⟨digits, Int.log 10 q⟩ := by
    rw [Scientific.ofRat, if_neg h.ne', log10Floor_eq h]
    dsimp only
    rw [rounded, Int.toNat_natCast]
    rfl
  rw [result]
  by_cases carry : digits = 10 ^ (places + 1)
  · have full : 10 ^ places < 10 ^ (places + 1) := Nat.pow_lt_pow_succ (by decide)
    have same : (roundEven (q / 10 ^ (Int.log 10 q - places)) : Rat) *
        10 ^ (Int.log 10 q - places) =
        (10 ^ places : Nat) * 10 ^ (Int.log 10 q + 1 - places) := by
      have power : Int.log 10 q + 1 - places = 1 + (Int.log 10 q - places) := by ring
      rw [rounded, carry, power, zpow_add₀ (by norm_num), zpow_one]
      push_cast
      ring
    have one : (WrittenDecimal.ofUnits places (10 ^ places)).value = 1 := by
      have unit : (10 : Rat) ^ places ≠ 0 := by positivity
      rw [WrittenDecimal.value_ofUnits]
      push_cast
      exact div_self unit
    rw [if_pos carry]
    exact ⟨ofDigits le_rfl full _, places_ofDigits le_rfl full _,
      isNearest_ofDigits le_rfl full h same, WrittenDecimal.text_ofUnits places _, rfl,
      .inr ⟨rfl, one⟩⟩
  · have less : digits < 10 ^ (places + 1) := lt_of_le_of_ne high carry
    have same : (roundEven (q / 10 ^ (Int.log 10 q - places)) : Rat) *
        10 ^ (Int.log 10 q - places) =
        digits * 10 ^ (Int.log 10 q - places) := by
      rw [rounded]
      rfl
    rw [if_neg carry]
    exact ⟨ofDigits low less _, places_ofDigits low less _, isNearest_ofDigits low less h same,
      WrittenDecimal.text_ofUnits places _, rfl, .inl rfl⟩

end ScientificDecimal

/-! ## Padded digits -/

/-- The digits of a number, with zeros in front up to the width and no more. -/
structure PaddedDigits (width n : Nat) (cs : List Char) : Prop where
  digits : ∀ c ∈ cs, c.isDigit
  value : digitsValue cs = n
  width_le : width ≤ cs.length
  leading : width < cs.length → cs.head? ≠ some '0'

theorem paddedDigits_paddedDecimal {width : Nat} (hw : 0 < width) (n : Nat) :
    PaddedDigits width n (paddedDecimal width n) where
  digits := fun _ hc => ascii_of_mem_paddedDecimal hc
  value := digitsValue_paddedDecimal
  width_le := by
    rw [paddedDecimal, List.length_append, List.length_replicate]
    omega
  leading := by
    intro long
    rw [paddedDecimal, List.length_append, List.length_replicate] at long
    have none : width - (decimal n).length = 0 := by omega
    have filled : n ≠ 0 := by
      rintro rfl
      have single : (decimal 0).length = 1 := rfl
      omega
    rw [paddedDecimal, none]
    exact head?_decimal filled

end SlideMerge.Numeric

namespace SlideMerge.Format

open Numeric Text

/-! ## Codes with an exponent -/

/-- The code `0`, a point and so many zeros behind it if there is a fraction, an `E` with a sign,
and `width` zeros. -/
def scientificCode (fraction : Option Nat) (signed : Bool) (width : Nat) : List Char :=
  '0' :: (fraction.elim [] ('.' :: List.replicate · '0') ++
    'E' :: (if signed then '+' else '-') :: List.replicate width '0')

section Code

variable (fraction : Option Nat) (signed : Bool) {width : Nat} (hw : 1 ≤ width)

theorem isPlaceholder_of_mem_zeros {k : Nat} :
    ∀ m ∈ marked false (List.replicate k '0'), m.isPlaceholder := by
  simp [forall_mem_marked, isDigitPlace]

include hw

theorem readExponent_zeros (wholeCount places : Nat) :
    readExponent wholeCount places
        (marked false ('E' :: (if signed then '+' else '-') :: List.replicate width '0')) =
      some (⟨wholeCount, places, signed, width⟩, []) := by
  have zeros : (marked false (List.replicate width '0')).takeWhile Mark.isPlaceholder =
      marked false (List.replicate width '0') :=
    List.takeWhile_eq_self_iff.2 isPlaceholder_of_mem_zeros
  have length : (marked false (List.replicate width '0')).length = width := by simp [marked]
  have filled : (width != 0) = true := bne_iff_ne.2 (by omega)
  have drop : (marked false (List.replicate width '0')).drop width = [] :=
    List.drop_eq_nil_of_le length.le
  rw [marked_cons, marked_cons, readExponent]
  dsimp only
  rw [zeros, length, filled, drop]
  cases signed with
  | true => rfl
  | false => rfl

theorem readScientific_scientificCode :
    readScientific (marked false (scientificCode fraction signed width)) =
      some (⟨1, fraction.getD 0, signed, width⟩, []) := by
  have exponent := readExponent_zeros signed hw 1 (fraction.getD 0)
  rw [scientificCode, marked_cons, readScientific, if_pos (by rfl)]
  dsimp only
  cases fraction with
  | none => exact exponent
  | some k =>
    have zeros : ∀ m ∈ marked false (List.replicate k '0'), m.isPlaceholder :=
      isPlaceholder_of_mem_zeros
    have count : placeholders (marked false (List.replicate k '0')) = k := by
      rw [placeholders, List.countP_eq_length.2 zeros, marked, List.length_map,
        List.length_replicate]
    let mark := marked false ('E' :: (if signed then '+' else '-') :: List.replicate width '0')
    have behind : ∀ m ∈ mark.head?, m.isPlaceholder = false := by
      intro m first
      obtain rfl := Option.some.inj first
      rfl
    show readExponent 1
      (placeholders ((marked false (List.replicate k '0' ++ _)).takeWhile Mark.isPlaceholder))
      ((marked false (List.replicate k '0' ++ _)).dropWhile Mark.isPlaceholder) = _
    rw [marked_append, takeWhile_run zeros behind, dropWhile_run zeros behind, count]
    exact exponent

theorem leftmost_readScientific_scientificCode :
    leftmost readScientific (marked false (scientificCode fraction signed width)) =
      some ([], ⟨1, fraction.getD 0, signed, width⟩, []) := by
  have found := readScientific_scientificCode fraction signed hw
  rw [scientificCode, marked_cons] at found ⊢
  rw [leftmost, found]

omit hw

theorem mem_scientificCode {c : Char} (h : c ∈ scientificCode fraction signed width) :
    c ∈ ['0', '.', 'E', '+', '-'] := by
  have zeros {k : Nat} (h : c ∈ List.replicate k '0') : c = '0' := List.eq_of_mem_replicate h
  rw [scientificCode, List.mem_cons, List.mem_append, List.mem_cons, List.mem_cons] at h
  rcases h with rfl | inFraction | rfl | rfl | inExponent
  · decide
  · cases fraction with
    | none => cases inFraction
    | some k =>
      rcases List.mem_cons.1 inFraction with rfl | zero
      · decide
      · rw [zeros zero]
        decide
  · decide
  · cases signed <;> decide
  · rw [zeros inExponent]
    decide

include hw

/-- **The code is read as the exponent that it asks for.** -/
theorem formatNumber_exponent (value : Number) :
    formatNumber value (scientificCode fraction signed width) =
      formatScientific ⟨1, fraction.getD 0, signed, width⟩ [] [] value := by
  have other {c : Char} (h : c ∉ ['0', '.', 'E', '+', '-']) :
      c ∉ scientificCode fraction signed width :=
    fun inside => h (mem_scientificCode fraction signed inside)
  have plain : ∀ c ∈ scientificCode fraction signed width, c ∉ ['"', '\\'] := by
    have all : ∀ c ∈ ['0', '.', 'E', '+', '-'], c ∉ ['"', '\\'] := by simp
    exact fun c hc => all c (mem_scientificCode fraction signed hc)
  have single : splitSections (scientificCode fraction signed width) =
      [scientificCode fraction signed width] := by
    rw [splitSections, sections, splitFrom_of_not_mem (other (by decide))]
  have bare : stripBrackets (scientificCode fraction signed width) =
      scientificCode fraction signed width :=
    stripFrom_unclosed (other (by decide)) none
  have shown := markFrom_plain plain []
  rw [List.append_nil] at shown
  have read : marks (scientificCode fraction signed width) =
      marked false (scientificCode fraction signed width) := by
    rw [marks, shown, markFrom, List.append_nil]
  have zero : '0' ∈ scientificCode fraction signed width := List.mem_cons_self
  have special := not_general_of_mem zero (by decide) (by decide)
  rw [formatNumber_single single, bare, formatSection, special]
  simp only [read, leftmost_readScientific_scientificCode fraction signed hw]
  rfl

end Code

/-- **An exponent is correct rounding.** A finite double that is not zero is shown with one digit
that is not zero before the point and as many behind it as the code has zeros, with an exponent that
is signed if it is negative, and otherwise if the code says so, and padded to the width of the code.
The decimal that is shown is the nearest one to the magnitude with so many digits, and an even
multiple of the last place of the magnitude if there is another one just as near. Its exponent is
one more than that of the magnitude where rounding carries. -/
theorem formatNumber_scientificCode {x : Double} {q : Rat} (h : x.toRat? = some q) (nonzero : q ≠ 0)
    (fraction : Option Nat) (signed : Bool) {width : Nat} (hw : 1 ≤ width) :
    ∃ (d : ScientificDecimal) (exponent : List Char),
      formatNumber (.real x) (scientificCode fraction signed width) =
        .ok ((if q < 0 then ['-'] else []) ++ d.mantissa.text ++ 'E' ::
          ((if d.exponent < 0 then ['-'] else if signed then ['+'] else []) ++ exponent)) ∧
      d.places = fraction.getD 0 ∧ PaddedDigits width d.exponent.natAbs exponent ∧
      d.IsNearest |q| ∧
      (d.exponent = Int.log 10 |q| ∨ d.exponent = Int.log 10 |q| + 1 ∧ d.mantissa.value = 1) := by
  obtain ⟨d, places, nearest, text, exponent, carry⟩ :=
    ScientificDecimal.exists_ofRat (abs_pos.2 nonzero) (fraction.getD 0)
  refine ⟨d, paddedDecimal width d.exponent.natAbs, ?_, places, paddedDigits_paddedDecimal hw _,
    nearest, carry⟩
  have sign : (Number.real x).isNegative = decide (q < 0) := by
    rw [Bool.eq_iff_iff, decide_eq_true_eq]
    exact Double.isNegative_iff h
  have magnitude : (Number.real x).magnitude = .ok x.abs := rfl
  rw [formatNumber_exponent fraction signed hw, formatScientific, if_neg (lt_irrefl 1), magnitude]
  simp only [bind, Except.bind, Double.toRat?_abs h, sign, text, exponent]
  simp

/-- Half-way between two decimals, rounding carries into the next power of ten. -/
theorem formatNumber_scientificCode_carry :
    (Double.ofRat (-1999 / 2) false).toRat? = some (-1999 / 2) ∧
      formatNumber (.real (Double.ofRat (-1999 / 2) false)) "0.00E+00".toList =
        .ok "-1.00E+03".toList ∧
      ∃ d : ScientificDecimal, d.places = 2 ∧ d.IsNearest |-1999 / 2| ∧
        ('-' :: d.mantissa.text) <+: "-1.00E+03".toList := by
  have value : (Double.ofRat (-1999 / 2) false).toRat? = some (-1999 / 2) := by decide +kernel
  have printed : formatNumber (.real (Double.ofRat (-1999 / 2) false))
      (scientificCode (some 2) true 2) =
      .ok "-1.00E+03".toList := by decide +kernel
  have two : 1 ≤ 2 := by decide
  obtain ⟨d, exponent, shown, places, -, nearest, -⟩ :=
    formatNumber_scientificCode value (by norm_num) (some 2) true two
  have text := Except.ok.inj (printed.symm.trans shown)
  rw [if_pos (by norm_num)] at text
  exact ⟨value, printed, d, places, nearest, ⟨_, text.symm⟩⟩

end SlideMerge.Format
