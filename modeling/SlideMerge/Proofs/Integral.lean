import SlideMerge.Proofs.Exact
import SlideMerge.Proofs.FixedPlaces
import SlideMerge.Proofs.Placeholders

/-!
# Integers among digits

A code that shows digits takes an integer through the double that is nearest to it, while the
general format writes it in full. That double is an integer too, so what is shown are the digits of
an integer and, behind a point, zeros. They are the digits of the integer itself if a double stands
for it.

* **The section** for an integer shows it or its magnitude, which have the same double
  (`magnitude_numberSection`), and a sign only if the integer is below zero
  (`isNegative_of_numberSection`).
* **The digits** tell the integer that they show (`FixedPattern.wholeBetween_injective`).

Main result: `render_integer`.
-/

namespace SlideMerge.Format

open Numeric Text

/-! ## The section that shows an integer -/

theorem isNegative_of_numberSection {code : List Char} {value : Number}
    (h : (numberSection code value).2.2) : value.isNegative := by
  rw [numberSection] at h
  generalize sections code = secs at h
  obtain ⟨first, others⟩ := secs
  dsimp only at h
  split_ifs at h
  exact h

theorem magnitude_abs_integer (n : Int) :
    (Number.integer n).abs.magnitude = (Number.integer n).magnitude := by
  simp [Number.abs, Number.magnitude]

theorem magnitude_numberSection (code : List Char) (n : Int) :
    (numberSection code (.integer n)).2.1.magnitude = (Number.integer n).magnitude := by
  obtain ⟨-, same | magnitude⟩ := numberSection_spec code (.integer n)
  · rw [same]
  · rw [magnitude, magnitude_abs_integer]

theorem magnitude_integer {n : Int} {x : Double} (h : Double.ofInt? n.natAbs = some x) :
    (Number.integer n).magnitude = .ok x := by
  rw [Number.magnitude, Number.doubleOfInt, h]

end SlideMerge.Format

namespace SlideMerge.Sheet

open Numeric Format Text

/-! ## Display texts of integers -/

theorem renderNumber_of_showsDigits {number : Number} {code : List Char} {before after : List Mark}
    {pattern : FixedPattern}
    (h : ShowsDigits (stripBrackets (numberSection code number).1) before pattern after) :
    renderNumber number code =
      formatFixed pattern (chars before) (chars after) (numberSection code number).2.2
        (numberSection code number).2.1 := by
  obtain ⟨c, inSection, -, sign, other⟩ := h.hasPlaceholder.exists_mem
  have part := (stripBrackets_sublist _).trans (numberSection_spec code number).1
  have special := showsGeneral_eq_false (part.subset inSection) sign other
  have fixed : formatNumber number code =
      formatFixed pattern (chars before) (chars after) (numberSection code number).2.2
        (numberSection code number).2.1 := h.formatSection _ _
  have exponent : formatNumber number code ≠ .error .noExponent := by
    rw [fixed]
    intro failed
    exact fault_of_formatFixed failed rfl
  rw [renderNumber_eq special exponent, fixed]

section Integer

variable {format : Option String} {n : Int} {before after : List Mark} {pattern : FixedPattern}
  (shows : ShowsDigits (stripBrackets (numberSection (displayCode format).toList (.integer n)).1)
    before
    pattern after)
  (unscaled : pattern.scaling = 0)
  (percent : '%' ∉ literalText (chars before) ∧ '%' ∉ literalText (chars after))

include shows unscaled percent

theorem render_integer_eq :
    render (.integer n) format =
      (fun x => String.ofList
        ((if (numberSection (displayCode format).toList (.integer n)).2.2 &&
            (fixedMagnitude pattern x).2 then ['-'] else []) ++
          literalText (chars before) ++ (fixedMagnitude pattern x).1 ++ literalText
            (chars after))) <$>
        (Number.integer n).magnitude := by
  have plain : (Number.integer n).isLogical = false := rfl
  have numbered := render_toValue plain format
  rw [renderNumber_of_showsDigits shows, formatFixed_unscaled unscaled percent,
    magnitude_numberSection, Functor.map_map] at numbered
  exact numbered

/-- **An integer is shown as the double nearest to it,** which is an integer, and not zero unless
the integer is zero. So the sign stays. -/
theorem render_integer_near (small : n.natAbs < Double.overflowLimit) :
    ∃ (x : Double) (m : Nat), Double.ofInt? n.natAbs = some x ∧ x.toRat? = some (m : Rat) ∧
      render (.integer n) format = .ok (String.ofList
        (pattern.wholeBetween (numberSection (displayCode format).toList (.integer n)).2.2
          (chars before) (chars after) m)) := by
  obtain ⟨x, m, nearest, value, zero⟩ := Double.exists_ofInt?_natCast small
  refine ⟨x, m, nearest, value, ?_⟩
  have sign : ((numberSection (displayCode format).toList (.integer n)).2.2 && m != 0) =
      (numberSection (displayCode format).toList (.integer n)).2.2 := by
    by_cases minus : (numberSection (displayCode format).toList (.integer n)).2.2 = true
    · have below : n < 0 := of_decide_eq_true (isNegative_of_numberSection minus)
      have rounded : m ≠ 0 := by
        rw [Ne, zero]
        omega
      simp [rounded]
    · simp [minus]
  rw [render_integer_eq shows unscaled percent, magnitude_integer nearest]
  refine congrArg Except.ok ?_
  dsimp only
  rw [FixedPattern.fixedMagnitude_natCast pattern m value]
  dsimp only
  rw [sign]
  rfl

theorem render_integer_eq_error (large : Double.overflowLimit ≤ n.natAbs) :
    render (.integer n) format = .error .integerTooLarge := by
  rw [render_integer_eq shows unscaled percent, magnitude_integer_eq_error large]
  rfl

end Integer

/-- **Digits show the double nearest to an integer.** In a section that shows digits, is not scaled
and has no percent sign, an integer is shown as the double nearest to its magnitude, which is an
integer too: all its digits, and after a point as many zeros as the section has places. If the
magnitude is beyond the doubles, there is no display text. So the digits are those that the general
format shows if the integer is a double, as all integers up to `2^53` are, and only then. -/
theorem render_integer {format : Option String} {n : Int} {before after : List Mark}
    {pattern : FixedPattern}
    (shows : ShowsDigits (stripBrackets (numberSection (displayCode format).toList (.integer n)).1)
      before
      pattern after)
    (unscaled : pattern.scaling = 0)
    (percent : '%' ∉ literalText (chars before) ∧ '%' ∉ literalText (chars after)) :
    let negative := (numberSection (displayCode format).toList (.integer n)).2.2
    let shown (m : Nat) :=
      String.ofList (pattern.wholeBetween negative (chars before) (chars after) m)
    (n.natAbs < Double.overflowLimit →
      ∃ (x : Double) (m : Nat), Double.ofInt? n.natAbs = some x ∧ x.toRat? = some (m : Rat) ∧
        render (.integer n) format = .ok (shown m)) ∧
    (render (.integer n) format = .error .integerTooLarge ↔ Double.overflowLimit ≤ n.natAbs) ∧
    (render (.integer n) format = .ok (shown n.natAbs) ↔ ∃ x : Double, x.toRat? = some (n : Rat)) ∧
    (n.natAbs ≤ 2 ^ 53 → ∃ x : Double, x.toRat? = some (n : Rat)) := by
  intro negative shown
  have near := render_integer_near shows unscaled percent
  have large := render_integer_eq_error shows unscaled percent
  refine ⟨near, ⟨?_, large⟩, ?_, ?_⟩
  · intro failed
    by_contra small
    obtain ⟨x, m, -, -, rendered⟩ := near (not_le.1 small)
    rw [rendered] at failed
    cases failed
  · rw [← Double.exists_toRat?_natAbs]
    by_cases small : n.natAbs < Double.overflowLimit
    · obtain ⟨x, m, nearest, value, rendered⟩ := near small
      rw [rendered, ← Double.toRat?_ofInt?_iff nearest value]
      constructor
      · intro same
        have texts := String.ofList_injective (Except.ok.inj same)
        exact pattern.wholeBetween_injective negative (chars before) (chars after) texts
      · intro same
        rw [same]
    · rw [large (not_lt.1 small)]
      refine iff_of_false (by simp) ?_
      rintro ⟨x, hx⟩
      have bound := Double.abs_lt_overflowLimit_of_toRat? hx
      rw [Nat.abs_cast] at bound
      exact small (by exact_mod_cast bound)
  · intro few
    exact (Double.exists_toRat?_natAbs n).1 (Double.exists_toRat?_of_le few)

/-- The largest integer up to which there are no gaps, in groups, with two places and a unit. -/
theorem render_integer_grouped :
    render (.integer (-9007199254740992)) (some "#,##0.00 \"t\"") =
      .ok "-9,007,199,254,740,992.00 t" := by
  have shows :
      ShowsDigits (stripBrackets (numberSection (displayCode (some "#,##0.00 \"t\"")).toList
      (.integer (-9007199254740992))).1) [] ⟨true, 2, 0⟩
        (⟨' ', false⟩ :: marked true "\"t\"".toList) := by
    decide +kernel
  obtain ⟨-, -, exact, gapless⟩ := render_integer shows rfl (by decide +kernel)
  exact (exact.2 (gapless (by decide))).trans (by decide +kernel)

/-- The next integer is shown as that one. -/
theorem exists_integer_rounded :
    ∃ (n : Int) (format : String),
      ShowsDigits (stripBrackets (numberSection (displayCode (some format)).toList (.integer n)).1)
        [] ⟨false, 0, 0⟩ [] ∧
      formatGeneral (.integer n) = "9007199254740993".toList ∧
      render (.integer n) (some format) = .ok "9007199254740992" := by
  refine ⟨9007199254740993, "0", ?_⟩
  decide +kernel

end SlideMerge.Sheet
