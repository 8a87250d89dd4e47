import SlideMerge.Proofs.FixedPlaces
import SlideMerge.Proofs.Placeholders

/-!
# How zero is shown

A code with a third section shows zero with it. All three placeholders of a digit mean the same
there, so one that asks for no digit is no different from a `0`.

* **Arithmetic** keeps zero: a hundredfold of it and a quotient by a thousand are zero
  (`isZero_timesHundred`, `isZero_of_divThousands`).
* **Each way to print a number** prints a `0` for it, with an exponent (`formatScientific_zero`), as
  digits (`formatFixed_zero`) and in the general format (`generalText_zero`).

So zero is shown without a digit only by a section in which no placeholder is seen (`IsZeroText`).

Main result: `render_zero`.
-/

namespace SlideMerge.Numeric.Double

theorem isZero_mul {x y : Double} {q : Rat} (hx : x.isZero) (hy : y.toRat? = some q) :
    (x.mul y).isZero := by
  rw [isZero_iff] at hx
  simp only [mul, hx, hy, zero_mul]
  rfl

theorem isZero_divPos {x : Double} (hx : x.isZero) (y : Double) : (x.divPos y).isZero := by
  have value := isZero_iff.1 hx
  cases hy : y.toRat? with
  | none => simpa [divPos, value, hy] using hx
  | some q =>
    simp only [divPos, value, hy, zero_div]
    rfl

end SlideMerge.Numeric.Double

namespace SlideMerge.Format

open Numeric Text

theorem FixedPattern.mem_wholeText_zero (p : FixedPattern) : '0' ∈ p.wholeText 0 := by
  have digit : '0' ∈ if p.grouped then groupThousands (decimal 0) else decimal 0 := by
    cases p.grouped <;> decide
  exact List.mem_append_left _ digit

/-! ## Arithmetic -/

section Zero

variable {value : Number} (h : value.isZero)

include h

theorem eq_of_isZero :
    value = .logical false ∨ value = .integer 0 ∨ ∃ x : Double, value = .real x ∧ x.isZero := by
  cases value with
  | logical b => simpa [Number.isZero] using h
  | integer n => simpa [Number.isZero] using h
  | real x => exact .inr (.inr ⟨x, rfl, h⟩)

/-- **A hundred times zero is zero.** -/
theorem isZero_timesHundred : value.timesHundred.isZero := by
  rcases eq_of_isZero h with rfl | rfl | ⟨x, rfl, zero⟩
  · rfl
  · rfl
  · have hundred : (Double.ofRat 100 false).toRat? = some 100 := by decide +kernel
    exact Double.isZero_mul zero hundred

/-- **Zero divided by a power of a thousand is zero.** -/
theorem isZero_of_divThousands {k : Nat} {result : Number}
    (divided : value.divThousands k = .ok result) :
    result.isZero := by
  have ofInt (divided : Number.intDivThousands k 0 = .ok result) : result.isZero := by
    simp only [Number.intDivThousands, Int.cast_zero, zero_div] at divided
    obtain rfl := Except.ok.inj divided
    rfl
  rcases eq_of_isZero h with rfl | rfl | ⟨x, rfl, zero⟩
  · exact ofInt divided
  · exact ofInt divided
  · obtain ⟨divisor, -, quotient⟩ := bind_eq_ok.1 divided
    obtain rfl := Except.ok.inj quotient
    exact Double.isZero_divPos zero divisor

theorem exists_magnitude_of_isZero : ∃ x, value.magnitude = .ok x ∧ x.toRat? = some 0 := by
  have zero : Number.doubleOfInt 0 = .ok (.zero false) := rfl
  rcases eq_of_isZero h with rfl | rfl | ⟨x, rfl, isZero⟩
  · exact ⟨_, zero, Double.toRat?_zero false⟩
  · exact ⟨_, zero, Double.toRat?_zero false⟩
  · have magnitude := Double.toRat?_abs (Double.isZero_iff.1 isZero)
    rw [abs_zero] at magnitude
    exact ⟨x.abs, rfl, magnitude⟩

/-! ## Printing -/

theorem printedDigits_zero {pattern : FixedPattern} {digits : List Char × Bool}
    (printed : printedDigits pattern value = .ok digits) :
    digits = (pattern.wholeText 0, false) := by
  obtain ⟨x, found, rfl⟩ := map_eq_ok.1 printed
  obtain ⟨scaled, divided, magnitude⟩ := bind_eq_ok.1 found
  have zero : scaled.isZero := by
    split_ifs at divided with unscaled
    · exact Except.ok.inj divided ▸ h
    · exact isZero_of_divThousands h divided
  obtain ⟨x', same, exact⟩ := exists_magnitude_of_isZero zero
  obtain rfl : x' = x := Except.ok.inj (same.symm.trans magnitude)
  have value : x'.toRat? = some ((0 : Nat) : Rat) := by simpa using exact
  exact pattern.fixedMagnitude_natCast 0 value

/-- **Digits show zero without a sign,** whatever the placeholders are, a percent sign or commas
that scale. -/
theorem formatFixed_zero {pattern : FixedPattern} {before after text : List Char} {negative : Bool}
    (printed : formatFixed pattern before after negative value = .ok text) :
    text = pattern.wholeBetween false before after 0 := by
  rw [formatFixed_eq] at printed
  obtain ⟨digits, found, rfl⟩ := map_eq_ok.1 printed
  have zero : (if '%' ∈ literalText before ∨ '%' ∈ literalText after then value.timesHundred
      else value).isZero := by
    split_ifs
    · exact isZero_timesHundred h
    · exact h
  rw [printedDigits_zero zero found, Bool.and_false]
  rfl

variable (plain : value.isLogical = false)

include plain

theorem generalText_zero : generalText value = .ok ['0'] := by
  rcases eq_of_isZero h with rfl | rfl | ⟨x, rfl, zero⟩
  · cases plain
  · rfl
  · have value : x.toRat? = some 0 := Double.isZero_iff.1 zero
    have whole : x.toInt? = some 0 := by simp [Double.toInt?, value]
    show Except.ok (generalReal x) = .ok ['0']
    simp only [generalReal, whole, value]
    rfl

/-- **A pattern with an exponent shows zero with a mantissa of zeros.** -/
theorem formatScientific_zero (pattern : ScientificPattern) (before after : List Char) :
    ∃ text, formatScientific pattern before after value = .ok text ∧ '0' ∈ text := by
  rw [formatScientific]
  by_cases engineering : 1 < pattern.wholeCount
  · rw [if_pos engineering, generalText_zero h plain]
    exact ⟨['0'], rfl, List.mem_singleton_self _⟩
  · obtain ⟨x, magnitude, zero⟩ := exists_magnitude_of_isZero h
    have mantissa : '0' ∈ (Scientific.ofRat pattern.places 0).mantissaText pattern.places := by
      have whole := FixedPattern.mem_wholeText_zero ⟨false, pattern.places, 0⟩
      rw [← FixedPattern.fixedText_whole, Nat.zero_mul] at whole
      exact whole
    rw [if_neg engineering, magnitude]
    simp only [bind, Except.bind, zero]
    exact ⟨_, rfl, by simp [mantissa]⟩

/-! ## Sections -/

/-- **A placeholder makes a section show a digit of zero.** -/
theorem mem_of_formatSection_zero {sec text : List Char} {negative : Bool}
    (place : HasPlaceholder sec)
    (printed : formatSection sec value negative = .ok text) : '0' ∈ text := by
  have special : (isBlankText sec || isGeneral (trim sec)) = false := place.not_standsForGeneral
  rw [formatSection, special, if_neg Bool.false_ne_true] at printed
  dsimp only at printed
  cases exponent : leftmost readScientific (marks sec) with
  | some found =>
    rw [exponent] at printed
    obtain ⟨shown, scientific, digit⟩ := formatScientific_zero h plain found.2.1 (chars found.1)
      (chars found.2.2)
    obtain rfl := Except.ok.inj (scientific.symm.trans printed)
    exact digit
  | none =>
    rw [exponent] at printed
    dsimp only at printed
    split_ifs at printed with fraction
    · rw [generalText_zero h plain] at printed
      obtain rfl := Except.ok.inj printed
      exact List.mem_singleton_self _
    · cases digits : leftmost readFixed (marks sec) with
      | none => exact absurd digits (leftmost_readFixed_ne_none place)
      | some found =>
        rw [digits] at printed
        rw [formatFixed_zero h printed]
        have digit := found.2.1.mem_wholeText_zero
        simp [FixedPattern.wholeBetween, digit]

theorem fault_of_formatSection_zero {sec : List Char} {negative : Bool} {fault : NumberFault}
    (failed : formatSection sec value negative = .error fault) : fault ≠ .noExponent := by
  unfold formatSection at failed
  rw [generalText_zero h plain] at failed
  split_ifs at failed with special
  dsimp only at failed
  split at failed
  · next before pattern after found =>
    obtain ⟨shown, scientific, -⟩ := formatScientific_zero h plain pattern (chars before)
        (chars after)
    rw [scientific] at failed
    cases failed
  · split_ifs at failed with fraction
    split at failed
    · exact fault_of_formatFixed failed
    · cases failed

end Zero

/-- What a section shows of zero. -/
structure IsZeroText (sec text : List Char) : Prop where
  /-- With a placeholder of any kind there is a digit. -/
  digit : HasPlaceholder sec → '0' ∈ text
  /-- Digits stand between literal text, without a sign. -/
  digits : ∀ {before pattern after}, ShowsDigits sec before pattern after →
    text = pattern.wholeBetween false (chars before) (chars after) 0
  /-- Without a placeholder there is nothing but literal text, or the general format. -/
  literal : ¬ HasPlaceholder sec → text = if standsForGeneral sec then ['0'] else literalText sec

theorem isZeroText_of_formatSection {sec text : List Char} {value : Number} (h : value.isZero)
    (plain : value.isLogical = false) {negative : Bool}
    (printed : formatSection sec value negative = .ok text) : IsZeroText sec text where
  digit := fun place => mem_of_formatSection_zero h plain place printed
  digits := by
    intro before pattern after shows
    rw [shows.formatSection] at printed
    exact formatFixed_zero h printed
  literal := by
    intro unplaced
    rw [formatSection_unplaced unplaced, generalText_zero h plain] at printed
    split_ifs at printed ⊢ <;> exact (Except.ok.inj printed).symm

/-- **Zero is shown with the third section** of a code that has one. -/
theorem formatNumber_third {code first second third : List Char} {others : List (List Char)}
    (sections : splitSections code = first :: second :: third :: others)
    (filled : isBlankText third = false) {value : Number} (h : value.isZero) :
    formatNumber value code = formatSection (stripBrackets third) value false := by
  have positive := not_isNegative_of_isZero h
  have inCode : third ∈ splitSections code := by
    rw [sections]
    simp
  have alone := splitSections_of_mem inCode
  rw [formatNumber_sections sections, if_neg (by simp [positive])]
  simp only [List.getD_cons_succ, List.getD_cons_zero]
  rw [if_pos ⟨h, filled⟩, formatNumber_single alone, positive]

end SlideMerge.Format

namespace SlideMerge.Sheet

open Numeric Format Text

theorem showsGeneral_sections {code first second : List Char} {others : List (List Char)}
    (h : splitSections code = first :: second :: others) : showsGeneral code = false := by
  have separated : ';' ∈ code := by
    rw [← join_splitSections code, h, joinSections_cons_cons]
    simp
  exact showsGeneral_eq_false separated (by decide) (by decide)

/-- **How zero is shown.** A code with a third section that is not blank shows zero, unless its
commas divide it by more than a double can be. If the search sees a placeholder of any kind in the
third section, a digit is shown; as digits between the literal text, it is a zero with no sign of
its own. If it sees none, the section is shown as its literal text, or as the general format if it
stands for that. -/
theorem render_zero {format : Option String} {first second third : List Char}
    {others : List (List Char)}
    (sections : splitSections (displayCode format).toList = first :: second :: third :: others)
    (filled : isBlankText third = false) {zero : Number} (h : zero.isZero)
    (plain : zero.isLogical = false) :
    Overflows (displayCode format).toList zero.toValue ∨
      ∃ text, render zero.toValue format = .ok (String.ofList text) ∧
        IsZeroText (stripBrackets third) text := by
  have third := formatNumber_third sections filled h
  have exponent : formatNumber zero (displayCode format).toList ≠ .error .noExponent :=
    third ▸ fun failed => fault_of_formatSection_zero h plain failed rfl
  have numbered := renderNumber_eq (showsGeneral_sections sections) exponent
  rcases exists_ok_or_error (render zero.toValue format) with ⟨shown, rendered⟩ | ⟨fault, failed⟩
  · right
    rw [render_toValue plain, numbered, third] at rendered
    obtain ⟨text, printed, rfl⟩ := map_eq_ok.1 rendered
    refine ⟨text, ?_, isZeroText_of_formatSection h plain printed⟩
    rw [render_toValue plain, numbered, third, printed]
    rfl
  · exact .inl (render_eq_error failed).2

/-- In an accounting format without decimals zero is a dash. -/
theorem render_zero_dash :
    splitSections (displayCode (some (builtInCode 41))).toList =
        ["_(* #,##0_)".toList, "_(* \\(#,##0\\)".toList, "_(* \"-\"_)".toList, "_(@_)".toList] ∧
      isBlankText "_(* \"-\"_)".toList = false ∧
      render (.real (.zero true)) (some (builtInCode 41)) = .ok " - " := by
  have sections : splitSections (displayCode (some (builtInCode 41))).toList =
      ["_(* #,##0_)".toList, "_(* \\(#,##0\\)".toList, "_(* \"-\"_)".toList, "_(@_)".toList] := by
    decide +kernel
  have filled : isBlankText "_(* \"-\"_)".toList = false := by decide +kernel
  have unplaced : ¬ HasPlaceholder (stripBrackets "_(* \"-\"_)".toList) := by decide +kernel
  have fewCommas : ¬ Overflows (displayCode (some (builtInCode 41))).toList
      (.real (.zero true)) := by
    show ¬ 103 ≤ _
    decide +kernel
  have zero : (Number.real (.zero true)).isZero := rfl
  obtain ⟨text, shown, isText⟩ := (render_zero sections filled zero rfl).resolve_left fewCommas
  refine ⟨sections, filled, ?_⟩
  rw [isText.literal unplaced] at shown
  exact shown.trans (by decide +kernel)

/-- In an accounting format with decimals zero is the same dash, and a digit behind it. -/
theorem exists_zero_behind_dash :
    ∃ (code : String) (first second third fourth : List Char),
      splitSections (displayCode (some code)).toList = [first, second, third, fourth] ∧
        isBlankText third = false ∧ third.any Char.isDigit = false ∧
        HasPlaceholder (stripBrackets third) ∧
        render (.integer 0) (some code) = .ok " -0 " := by
  refine ⟨builtInCode 43, "_(* #,##0.00_)".toList, "_(* \\(#,##0.00\\)".toList,
    "_(* \"-\"??_)".toList, "_(@_)".toList, ?_⟩
  decide +kernel

end SlideMerge.Sheet
