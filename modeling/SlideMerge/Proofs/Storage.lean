import SlideMerge.Proofs.Arithmetic
import SlideMerge.Proofs.Placeholders
import SlideMerge.Workbook.Legacy

/-!
# Integers that are stored as doubles

The legacy format stores every number as a double, and its reader takes the integral ones for
integers. The two are displayed alike as long as the doubles have no gaps, and that is shown once
for each renderer:

* **the general format,** which writes an integral double like an integer (`generalText_stored`),
* **digits,** whose arithmetic is exact on both sides or ends in the same rounding
  (`formatFixed_stored`),
* **exponents,** which are those of the magnitude (`formatScientific_stored`).

The section that shows the number is chosen by its sign, and shows the number or its magnitude
(`numberSection_stored`).

Main result: `render_stored`.
-/

namespace SlideMerge.Format

open Numeric Text

/-- An integer and a double of the same value, up to whose hundredfold the doubles have no gaps. -/
structure Stored (n : Int) (x : Double) : Prop where
  value : x.toRat? = some (n : Rat)
  small : 100 * n.natAbs ≤ 2 ^ 53

section Stored

variable {n : Int} {x : Double} (h : Stored n x)

include h

/-! ## Values -/

theorem toInt?_stored : x.toInt? = some n := by
  simp [Double.toInt?, h.value]

theorem isNegative_stored : (Number.real x).isNegative = (Number.integer n).isNegative := by
  have sign : x.isNegative ↔ n < 0 := (Double.isNegative_iff h.value).trans Int.cast_lt_zero
  exact Bool.eq_iff_iff.2 (sign.trans decide_eq_true_iff.symm)

theorem isZero_stored : (Number.real x).isZero = (Number.integer n).isZero := by
  have zero : x.isZero ↔ n = 0 := by
    rw [Double.isZero_iff, h.value, Option.some_inj]
    exact Int.cast_eq_zero
  exact Bool.eq_iff_iff.2 (zero.trans beq_iff_eq.symm)

/-- **The magnitudes are stored alike.** -/
theorem stored_abs : Stored n.natAbs x.abs where
  value := by
    rw [Double.toRat?_abs h.value, Int.cast_natCast, Nat.cast_natAbs, Int.cast_abs]
  small := by
    rw [Int.natAbs_natCast]
    exact h.small

theorem magnitude_stored : (Number.real x).magnitude = (Number.integer n).magnitude :=
  (scaledMagnitude_eq_real h.value (Nat.zero_le 7)).symm

/-! ## Renderers -/

theorem formatGeneral_stored : formatGeneral (.real x) = formatGeneral (.integer n) := by
  have short : n.natAbs < generalIntegerLimit := by
    have small := h.small
    have limit : generalIntegerLimit = 10 ^ 15 := rfl
    omega
  rw [formatGeneral, generalReal, toInt?_stored h, h.value]
  exact if_pos short

theorem generalText_stored : generalText (.real x) = generalText (.integer n) := by
  have fits : 2 ^ 53 < Double.overflowLimit := by decide +kernel
  have integer : (Number.integer n).toValue.isWritable := by
    have small := h.small
    exact isWritable_of_size_lt (show n.natAbs < Double.overflowLimit by omega)
  have real : generalText (.real x) = .ok (formatGeneral (.real x)) :=
    generalText_eq_ok.2 ⟨rfl, rfl⟩
  rw [real, formatGeneral_stored h]
  exact (generalText_eq_ok.2 ⟨integer, rfl⟩).symm

theorem formatFixed_stored {pattern : FixedPattern} (few : pattern.scaling ≤ 7)
    (before after : List Char)
    (negative : Bool) :
    formatFixed pattern before after negative (.real x) =
      formatFixed pattern before after negative (.integer n) := by
  have printed {m : Int} {y : Double} (value : y.toRat? = some (m : Rat)) :
      printedDigits pattern (.real y) = printedDigits pattern (.integer m) :=
    congrArg (fixedMagnitude pattern <$> ·) (scaledMagnitude_eq_real value few).symm
  rw [formatFixed_eq, formatFixed_eq]
  refine congrArg (_ <$> ·) ?_
  split_ifs
  · obtain ⟨y, product, value⟩ := toRat?_timesHundred h.value h.small
    rw [product]
    exact printed value
  · exact printed h.value

theorem formatScientific_stored (pattern : ScientificPattern) (before after : List Char) :
    formatScientific pattern before after (.real x) =
      formatScientific pattern before after (.integer n) := by
  rw [formatScientific, formatScientific]
  simp only [generalText_stored h, magnitude_stored h, isNegative_stored h]

theorem formatSection_stored {sec : List Char} (few : sec.count ',' ≤ 7) (negative : Bool) :
    formatSection sec (.real x) negative = formatSection sec (.integer n) negative := by
  rw [formatSection, formatSection]
  dsimp only
  cases leftmost readScientific (marks sec) with
  | some found => simp only [generalText_stored h, formatScientific_stored h]
  | none =>
    cases digits : leftmost readFixed (marks sec) with
    | some found =>
      simp only [generalText_stored h, formatFixed_stored h ((scaling_le_count digits).trans few)]
    | none => simp only [generalText_stored h]

/-! ## Codes -/

/-- **One section shows both,** or the magnitudes of both. -/
theorem numberSection_stored (code : List Char) :
    ∃ sec m y negative, Stored m y ∧ sec.Sublist code ∧
      numberSection code (.real x) = (sec, .real y, negative) ∧
      numberSection code (.integer n) = (sec, .integer m, negative) := by
  have part := (numberSection_spec code (.integer n)).1
  unfold numberSection at part ⊢
  rw [isNegative_stored h, isZero_stored h]
  generalize sections code = secs at part ⊢
  obtain ⟨first, others⟩ := secs
  dsimp only at part ⊢
  split_ifs at part ⊢ with negative zero
  · exact ⟨_, n.natAbs, x.abs, _, stored_abs h, part, rfl, rfl⟩
  · exact ⟨_, n, x, _, h, part, rfl, rfl⟩
  · exact ⟨_, n, x, _, h, part, rfl, rfl⟩

theorem formatNumber_stored {code : List Char} (few : code.count ',' ≤ 7) :
    formatNumber (.real x) code = formatNumber (.integer n) code := by
  obtain ⟨sec, m, y, negative, stored, part, shown, shownToo⟩ := numberSection_stored h code
  have fewer : (stripBrackets sec).count ',' ≤ 7 :=
    (((stripBrackets_sublist sec).trans part).count_le ',').trans few
  rw [formatNumber, formatNumber, shown, shownToo]
  exact formatSection_stored stored fewer negative

end Stored

end SlideMerge.Format

namespace SlideMerge.Sheet

open Numeric Format Workbook

/-! ## Display texts -/

theorem count_displayCode_le {format : Option String} {k : Nat}
    (few : ∀ code ∈ format, code.toList.count ',' ≤ k) :
    (displayCode format).toList.count ',' ≤ k := by
  have none : generalCode.toList.count ',' = 0 ∧ shortDateCode.toList.count ',' = 0 := by decide
  have given : (format.getD generalCode).toList.count ',' ≤ k := by
    cases format with
    | none => exact none.1.trans_le (Nat.zero_le k)
    | some code => exact few code rfl
  unfold displayCode
  dsimp only
  split_ifs
  · exact none.2.trans_le (Nat.zero_le k)
  · exact none.1.trans_le (Nat.zero_le k)
  · exact none.2.trans_le (Nat.zero_le k)
  · exact given

theorem render_real_eq {n : Int} {x : Double} (h : Stored n x) {format : Option String}
    (few : ∀ code ∈ format, code.toList.count ',' ≤ 7) :
    render (.real x) format = render (.integer n) format := by
  have number := formatNumber_stored h (count_displayCode_le few)
  rw [render, render]
  simp only [renderWithCode, renderNumber, generalText_stored h, number]

/-- **Display does not depend on storage.** An integer whose hundredfold is at most `2^53` is stored
as a double of the same value, and has a display text with every format. With a format of at most
seven commas, all doubles of this value have the same display text, whichever renderer the format
selects, and the reader of the legacy format takes them for the integer. -/
theorem render_stored {n : Int} (small : 100 * n.natAbs ≤ 2 ^ 53) :
    (∃ x, Double.ofInt? n = some x ∧ x.toRat? = some (n : Rat)) ∧
    ∀ format : Option String, ∃ text, render (.integer n) format = .ok text ∧
      ∀ x : Double, x.toRat? = some (n : Rat) →
        ((∀ code ∈ format, code.toList.count ',' ≤ 7) → render (.real x) format = .ok text) ∧
        ∀ system, legacyValue? system .number (some (.real x)) = some (.integer n) := by
  have fits : 100 * n.natAbs < Double.overflowLimit :=
    small.trans_lt (show 2 ^ 53 < Double.overflowLimit by decide +kernel)
  have exact : (Double.ofRat n false).toRat? = some (n : Rat) := by
    obtain ⟨x, value⟩ := (Double.exists_toRat?_natAbs n).1 (Double.exists_toRat?_of_le (by omega))
    exact Double.toRat?_ofRat_of_toRat? value false
  refine ⟨⟨_, Double.ofInt?_eq (exact ▸ rfl), exact⟩, fun format => ?_⟩
  rcases exists_ok_or_error (render (.integer n) format) with ⟨text, shown⟩ | ⟨fault, failed⟩
  · refine ⟨text, shown, fun x value => ⟨fun few => ?_, fun system => ?_⟩⟩
    · exact (render_real_eq ⟨value, small⟩ few).trans shown
    · simp [legacyValue?, integerOf?, toInt?_stored ⟨value, small⟩]
  · exact absurd fits (not_lt.2 (render_eq_error failed).2)

/-- The last integer whose hundredfold is exact, in groups, with three commas and a percent sign. -/
theorem render_stored_scaledPercent :
    100 * (-90071992547409 : Int).natAbs ≤ 2 ^ 53 ∧
      ∃ x, Double.ofInt? (-90071992547409) = some x ∧
        render (.real x) (some "#,##0.0000,,%") = .ok "-9,007,199,254.7409%" ∧
        legacyValue? .from1900 .number (some (.real x)) = some (.integer (-90071992547409)) := by
  have small : 100 * (-90071992547409 : Int).natAbs ≤ 2 ^ 53 := by decide
  have few : ∀ code ∈ some "#,##0.0000,,%", code.toList.count ',' ≤ 7 := by decide
  obtain ⟨⟨x, nearest, value⟩, shown⟩ := render_stored small
  obtain ⟨text, integer, real⟩ := shown (some "#,##0.0000,,%")
  have printed : render (.integer (-90071992547409)) (some "#,##0.0000,,%") =
      .ok "-9,007,199,254.7409%" := by decide +kernel
  obtain rfl := Except.ok.inj (integer.symm.trans printed)
  obtain ⟨alike, read⟩ := real x value
  exact ⟨small, x, nearest, alike few, read .from1900⟩

end SlideMerge.Sheet
