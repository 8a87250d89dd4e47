import SlideMerge.Proofs.Currency
import SlideMerge.Proofs.DigitBody

/-!
# Thousands and percent on integers

A comma at the end of a body divides by a thousand, and a percent sign behind it multiplies by a
hundred. On integers both are exact: the quotient of two integers is taken first and rounded once,
and a hundred times an integer is an integer.

* **Commas.** What a body shows of an integer depends on the quotient and on the sign
  (`DigitBody.formatNumber_integer`), and a factor of a thousand for each comma more leaves both
  alone.
* **Percent signs.** The sign is literal text behind the body (`DigitBody.percent`), so a body with
  a percent sign shows what the body alone shows of the hundredfold
  (`DigitBody.formatNumber_percentSign`).

Main result: `formatNumber_scaled`.
-/

namespace SlideMerge.Format

open Numeric Text

namespace DigitBody

variable (b : DigitBody)

/-! ## Commas at the end -/

/-- **What a body shows of an integer** is its quotient, printed with the pattern behind the sign of
the integer. -/
theorem formatNumber_integer {n : Int} {q : Rat}
    (quotient : (n : Rat) / 1000 ^ b.pattern.scaling = q)
    (small : |q| < Double.overflowLimit) :
    formatNumber (.integer n) b.code =
      .ok ((if decide (n < 0) && (fixedMagnitude b.pattern (Double.ofRat |q| false)).2 then ['-']
        else []) ++
        (fixedMagnitude b.pattern (Double.ofRat |q| false)).1) := by
  subst quotient
  rw [b.formatNumber_eq, scaledMagnitude_integer small]
  rfl

/-- **As many commas as factors of a thousand change nothing.** -/
theorem formatNumber_thousands {n : Int} (small : n.natAbs < Double.overflowLimit) (k : Nat) :
    formatNumber (.integer (n * 1000 ^ k)) (b.code ++ List.replicate k ',') =
      formatNumber (.integer n) b.code := by
  have one : (1 : Rat) ≤ 1000 ^ b.pattern.scaling := one_le_pow₀ (by norm_num)
  have quotient := abs_div_lt one (Double.abs_intCast_lt_iff.2 small)
  have cancelled : ((n * 1000 ^ k : Int) : Rat) / 1000 ^ (b.scaledBy k).pattern.scaling =
      n / 1000 ^ b.pattern.scaling := by
    have filled : (1000 : Rat) ^ k ≠ 0 := pow_ne_zero k (by norm_num)
    rw [pattern_scaledBy, pow_add]
    push_cast
    exact mul_div_mul_right _ _ filled
  have sign : n * 1000 ^ k < 0 ↔ n < 0 := by
    have positive : (0 : Int) < 1000 ^ k := by positivity
    exact ⟨fun h => neg_of_mul_neg_left h positive.le, fun h => mul_neg_of_neg_of_pos h positive⟩
  -- the number of thousands plays no part in printing the quotient
  have printed (x : Double) : fixedMagnitude (b.scaledBy k).pattern x =
      fixedMagnitude b.pattern x := by
    rw [pattern_scaledBy]
    rfl
  rw [← code_scaledBy, (b.scaledBy k).formatNumber_integer cancelled quotient,
    b.formatNumber_integer rfl quotient]
  simp only [printed, sign]

/-! ## A percent sign behind the body -/

/-- The body with a percent sign behind it. -/
def percent : Layout :=
  { b.bare with
    after := [.plain '%' (by decide) rfl]
    ends := by simp [Piece.code] }

theorem code_percent : b.percent.code = b.code ++ ['%'] := by
  simp [Layout.code, percent, DigitBody.bare, codeOf, Piece.code]

theorem not_mem_code_percent {c : Char} (h : c ∉ ['0', '#', '?', ',', '.', '%']) :
    c ∉ b.percent.code := by
  intro inside
  rw [code_percent] at inside
  rcases List.mem_append.1 inside with inBody | last
  · exact h (List.mem_append_left ['%'] (mem_code inBody))
  · rw [List.mem_singleton.1 last] at h
    exact h (by decide)

theorem hasFraction_percent : hasFraction (marks b.percent.code) = false := by
  have noSlash := b.not_mem_code_percent (c := '/') (by decide)
  apply hasFraction_eq_false
  intro m hm
  have inCode : m.char ∈ b.percent.code := by
    rw [← chars_markFrom false b.percent.code]
    exact List.mem_map_of_mem hm
  have other : (m.char == '/') = false := beq_eq_false_iff_ne.2 fun slash =>
    noSlash (slash ▸ inCode)
  rw [Mark.shows, other, Bool.and_false]

/-- **A percent sign behind a body shows the hundredfold** and a percent sign behind its digits. -/
theorem formatNumber_percentSign (value : Number) :
    formatNumber value (b.code ++ ['%']) =
      (· ++ ['%']) <$> formatNumber value.timesHundred b.code := by
  have single : splitSections b.percent.code = [b.percent.code] := by
    rw [splitSections, sections, splitFrom_of_not_mem (b.not_mem_code_percent (by decide))]
  have bare : stripBrackets b.percent.code = b.percent.code :=
    stripFrom_unclosed (b.not_mem_code_percent (by decide)) none
  have shows : b.percent.ShowsPercent := .inr (List.mem_singleton.2 rfl)
  have behind : surround (textOf b.percent.before) (textOf b.percent.after) = (· ++ ['%']) := by
    funext digits
    show surround [] ['%'] digits = digits ++ ['%']
    unfold surround
    split <;> rfl
  have sign : value.timesHundred.isNegative = value.isNegative := isNegative_timesHundred value
  rw [← b.code_percent, formatNumber_single single, bare, b.percent.formatSection_code,
    b.hasFraction_percent, behind, Layout.scaled, if_pos shows, b.formatNumber_code, sign]
  rfl

end DigitBody

/-! ## Integers -/

/-- **Scaling is exact on integers.** For an integer that is near to a finite double, every body
shows of its product with `1000^k`, with `k` more commas, what it shows of the integer, and with a
percent sign behind it, it shows what it shows of the hundredfold and a percent sign, if the
hundredfold is near to a finite double as well. -/
theorem formatNumber_scaled (b : DigitBody) {n : Int} (small : n.natAbs < Double.overflowLimit) :
    (∃ text, formatNumber (.integer n) b.code = .ok text ∧
      ∀ k, formatNumber (.integer (n * 1000 ^ k)) (b.code ++ List.replicate k ',') = .ok text) ∧
    ((100 * n).natAbs < Double.overflowLimit →
      ∃ text, formatNumber (.integer (100 * n)) b.code = .ok text ∧
        formatNumber (.integer n) (b.code ++ ['%']) = .ok (text ++ ['%'])) := by
  have returns {m : Int} (small : m.natAbs < Double.overflowLimit) :
      ∃ text, formatNumber (.integer m) b.code = .ok text := by
    have inRange : (Number.integer m).InRange := small
    exact (b.exists_formatNumber_iff inRange).2 fun many => Bool.false_ne_true many.1
  constructor
  · obtain ⟨text, shown⟩ := returns small
    exact ⟨text, shown, fun k => (b.formatNumber_thousands small k).trans shown⟩
  · intro small
    obtain ⟨text, shown⟩ := returns small
    have hundredfold : (Number.integer n).timesHundred = .integer (100 * n) := rfl
    refine ⟨text, shown, ?_⟩
    rw [b.formatNumber_percentSign, hundredfold, shown]
    rfl

/-- The body `#,##0.00`. -/
def hundredths : DigitBody :=
  { thousands with commas := 0 }

/-- A product that no finite double is near to is divided exactly. -/
theorem formatNumber_scaled_hundredths :
    (-98765 : Int).natAbs < Double.overflowLimit ∧
      (100 * -98765 : Int).natAbs < Double.overflowLimit ∧
      Double.overflowLimit ≤ (-98765 * 1000 ^ 103 : Int).natAbs ∧
      formatNumber (.integer (-98765 * 1000 ^ 103)) ("#,##0.00".toList ++ List.replicate 103 ',') =
        .ok "-98,765.00".toList ∧
      formatNumber (.integer (-98765)) "#,##0.00%".toList = .ok "-9,876,500.00%".toList := by
  have small : (-98765 : Int).natAbs < Double.overflowLimit := by decide +kernel
  have smallToo : (100 * -98765 : Int).natAbs < Double.overflowLimit := by decide +kernel
  obtain ⟨⟨text, shown, scaled⟩, percent⟩ := formatNumber_scaled hundredths small
  obtain ⟨hundredfold, shownToo, percent⟩ := percent smallToo
  have text_eq : formatNumber (.integer (-98765)) hundredths.code = .ok "-98,765.00".toList := by
    decide +kernel
  have hundredfold_eq : formatNumber (.integer (100 * -98765)) hundredths.code =
      .ok "-9,876,500.00".toList := by decide +kernel
  obtain rfl := Except.ok.inj (shown.symm.trans text_eq)
  obtain rfl := Except.ok.inj (shownToo.symm.trans hundredfold_eq)
  exact ⟨small, smallToo, by decide +kernel, scaled 103, percent⟩

end SlideMerge.Format
