import SlideMerge.Proofs.Arithmetic
import SlideMerge.Proofs.DigitBody
import SlideMerge.Proofs.FixedPlaces

/-!
# Digits in groups of thousands

A body with a comma before the last placeholder of its whole part shows a number in groups of three
digits. It shows what the body without such commas shows, with commas put in.

* **Groups** (`GroupedDigits`). A run of digits falls into groups of three from its end
  (`exists_groupedDigits`).
* **Decimals** (`GroupedDecimal`). A finite magnitude is printed as a decimal whose whole part is in
  groups (`exists_groupedDecimal`), and without its commas it is what is printed without groups
  (`withoutCommas_fixedMagnitude`). Rounding and scaling come before the groups and do not depend on
  them.

Main result: `formatNumber_grouped`.
-/

namespace SlideMerge.Numeric

open Text

/-! ## Groups of three digits -/

theorem groupThousands_of_short {cs : List Char} (h : cs.length ≤ 3) : groupThousands cs = cs := by
  have short {cs : List Char} (h : cs.length ≤ 3) : commaEveryThird cs = cs := by
    unfold commaEveryThird
    split
    · simp only [List.length_cons] at h
      omega
    · rfl
  rw [groupThousands, short (by rwa [List.length_reverse]), List.reverse_reverse]

/-- **Three more digits are a group of their own.** -/
theorem groupThousands_append {cs group : List Char} (h : cs ≠ []) (three : group.length = 3) :
    groupThousands (cs ++ group) = groupThousands cs ++ ',' :: group := by
  obtain ⟨a, b, c, rfl⟩ := List.length_eq_three.1 three
  obtain ⟨front, last, rfl⟩ := List.eq_nil_or_concat' cs |>.resolve_left h
  simp [groupThousands, commaEveryThird]

/-- Digits in groups: one to three of them, and then three and three with a comma before each
group. -/
structure GroupedDigits where
  first : List Char
  others : List (List Char)
  first_digits : ∀ c ∈ first, c.isDigit
  others_digits : ∀ group ∈ others, ∀ c ∈ group, c.isDigit
  one_le_length_first : 1 ≤ first.length
  length_first_le : first.length ≤ 3
  length_others : ∀ group ∈ others, group.length = 3

/-- The groups as they are written. -/
def GroupedDigits.text (g : GroupedDigits) : List Char :=
  g.first ++ g.others.flatMap (',' :: ·)

/-- Up to three digits are a group of their own. -/
def GroupedDigits.single {cs : List Char} (digits : ∀ c ∈ cs, c.isDigit) (filled : cs ≠ [])
    (short : cs.length ≤ 3) : GroupedDigits where
  first := cs
  others := []
  first_digits := digits
  others_digits := List.forall_mem_nil _
  one_le_length_first := List.length_pos_iff.2 filled
  length_first_le := short
  length_others := List.forall_mem_nil _

/-- One more group at the end. -/
def GroupedDigits.concat (g : GroupedDigits) {group : List Char} (digits : ∀ c ∈ group, c.isDigit)
    (three : group.length = 3) : GroupedDigits :=
  { g with
    others := g.others ++ [group]
    others_digits := List.forall_mem_append.2 ⟨g.others_digits, List.forall_mem_singleton.2 digits⟩
    length_others := List.forall_mem_append.2 ⟨g.length_others, List.forall_mem_singleton.2 three⟩ }

theorem GroupedDigits.text_concat (g : GroupedDigits) {group : List Char}
    (digits : ∀ c ∈ group, c.isDigit) (three : group.length = 3) :
    (g.concat digits three).text = g.text ++ ',' :: group := by
  simp [concat, text]

/-- **A run of digits falls into groups from its end.** -/
theorem exists_groupedDigits {cs : List Char} (filled : cs ≠ []) (digits : ∀ c ∈ cs, c.isDigit) :
    ∃ g : GroupedDigits, groupThousands cs = g.text := by
  induction length : cs.length using Nat.strongRecOn generalizing cs with
  | _ n ih =>
    by_cases short : n ≤ 3
    · refine ⟨.single digits filled (length ▸ short), ?_⟩
      rw [groupThousands_of_short (length ▸ short)]
      exact (List.append_nil cs).symm
    · -- the last three digits are a group behind those of the rest
      have three : (cs.drop (n - 3)).length = 3 := by
        rw [List.length_drop]
        omega
      have rest : (cs.take (n - 3)).length = n - 3 := by
        rw [List.length_take]
        omega
      have front : cs.take (n - 3) ≠ [] := by
        rw [← List.length_pos_iff]
        omega
      have digitsFront : ∀ c ∈ cs.take (n - 3), c.isDigit := fun c hc =>
        digits c (List.mem_of_mem_take hc)
      have digitsLast : ∀ c ∈ cs.drop (n - 3), c.isDigit := fun c hc =>
        digits c (List.mem_of_mem_drop hc)
      obtain ⟨g, hg⟩ := ih (n - 3) (by omega) front digitsFront rest
      refine ⟨g.concat digitsLast three, ?_⟩
      rw [g.text_concat, ← hg, ← groupThousands_append front three, List.take_append_drop]

theorem filter_eq_self_of_not_mem {cs : List Char} (h : ',' ∉ cs) : cs.filter (· != ',') = cs := by
  refine List.filter_eq_self.2 fun c hc => ?_
  rw [bne_iff_ne]
  rintro rfl
  exact h hc

/-- **Without its commas a decimal is one without groups.** -/
theorem filter_fixedText (places units : Nat) (grouped : Bool) :
    (fixedText places grouped units).filter (· != ',') = fixedText places false units := by
  have whole : (if grouped then groupThousands (wholeDigits places units)
      else wholeDigits places units).filter (· != ',') = wholeDigits places units := by
    cases grouped with
    | true => exact filter_groupThousands _
    | false =>
      exact filter_eq_self_of_not_mem (comma_not_mem_of_isDigit fun _ => ascii_of_mem_decimal)
  have fraction : (pointed places units).filter (· != ',') = pointed places units := by
    have digits : ',' ∉ fractionDigits places units :=
      comma_not_mem_of_isDigit fun _ => ascii_of_mem_paddedDecimal
    refine filter_eq_self_of_not_mem ?_
    unfold pointed
    split_ifs
    · exact List.not_mem_nil
    · exact List.not_mem_cons_of_ne_of_not_mem (by decide) digits
  rw [fixedText, List.filter_append, whole, fraction]
  rfl

end SlideMerge.Numeric

namespace SlideMerge.Format

open Numeric Text

/-! ## Printing with and without groups -/

/-- A text without its commas. -/
def withoutCommas (cs : List Char) : List Char :=
  cs.filter (· != ',')

theorem withoutCommas_fixedMagnitude (p : FixedPattern) (x : Double) :
    fixedMagnitude { p with grouped := false } x =
      (withoutCommas (fixedMagnitude p x).1, (fixedMagnitude p x).2) := by
  cases x with
  | nan => rfl
  | infinite negative => cases negative <;> rfl
  | finite negative mantissa exponent => exact congrArg (·, _) (filter_fixedText _ _ p.grouped).symm

/-! ## Bodies with groups -/

/-- A decimal whose whole part is in groups, behind a minus sign if the flag says so. -/
structure GroupedDecimal where
  negative : Bool
  whole : GroupedDigits
  fraction : List Char
  fraction_digits : ∀ c ∈ fraction, c.isDigit

/-- The text of a decimal, which has a point only before digits. -/
def GroupedDecimal.text (d : GroupedDecimal) : List Char :=
  (if d.negative then ['-'] else []) ++ d.whole.text ++ if d.fraction = [] then []
    else '.' :: d.fraction

/-- **A finite magnitude is printed in groups** with the places of the pattern. -/
theorem exists_groupedDecimal {p : FixedPattern} (grouped : p.grouped = true) {x : Double} {q : Rat}
    (h : x.toRat? = some q) (negative : Bool) :
    ∃ d : GroupedDecimal, d.negative = negative ∧ d.fraction.length = p.places ∧
      (if negative then ['-'] else []) ++ (fixedMagnitude p x).1 = d.text := by
  let units := fixedUnits p.places q
  let d := WrittenDecimal.ofUnits p.places units
  obtain ⟨whole, hw⟩ := exists_groupedDigits d.whole_ne_nil d.whole_digits
  -- the fraction is that of the decimal without groups
  have fraction : pointed p.places units = if d.fraction = [] then [] else '.' :: d.fraction :=
    (List.append_cancel_left (WrittenDecimal.text_ofUnits p.places units)).symm
  refine ⟨⟨negative, whole, d.fraction, d.fraction_digits⟩, rfl,
    WrittenDecimal.length_fraction_ofUnits _ _, ?_⟩
  have printed : (fixedMagnitude p x).1 = groupThousands d.whole ++ pointed p.places units := by
    rw [fixedMagnitude, h]
    simp only [fixedText, grouped, if_true]
    rfl
  rw [printed, hw, fraction, GroupedDecimal.text, List.append_assoc]

/-- **A comma before the last placeholder only puts commas in.** With such a comma in its whole
part, a body shows each number as the body without them does, but for the commas in the text. A
number that a finite double is near to has a text, unless a double would be divided by `1000^103` or
more, and all texts are decimals whose whole part is in groups of three digits, the first of them of
one to three, with no comma after the point. -/
theorem formatNumber_grouped {b : DigitBody} (grouped : ',' ∈ b.places) (value : Number) :
    withoutCommas <$> formatNumber value b.code = formatNumber value b.ungrouped.code ∧
    (value.InRange →
      ((∃ text, formatNumber value b.code = .ok text) ↔
        ¬ (value.isReal ∧ 103 ≤ b.wholeCommas + b.commas)) ∧
      ∀ text, formatNumber value b.code = .ok text →
        ∃ d : GroupedDecimal, d.fraction.length = (b.fraction.getD []).length ∧ text = d.text) := by
  have pattern := b.pattern_eq
  rw [decide_eq_true grouped] at pattern
  constructor
  · rw [b.formatNumber_eq, b.ungrouped.formatNumber_eq, b.pattern_ungrouped, Functor.map_map]
    refine congrArg (· <$> _) ?_
    funext x
    rw [withoutCommas_fixedMagnitude, withoutCommas, List.filter_append]
    split_ifs <;> rfl
  · intro inRange
    have returns := b.exists_formatNumber_iff inRange
    rw [pattern] at returns
    refine ⟨returns, fun text shown => ?_⟩
    have few := (b.exists_formatNumber_iff inRange).1 ⟨text, shown⟩
    obtain ⟨x, q, magnitude, exact⟩ := exists_scaledMagnitude inRange few
    rw [b.formatNumber_eq, magnitude] at shown
    obtain rfl := Except.ok.inj shown
    have grouped : b.pattern.grouped = true := by rw [pattern]
    have places : b.pattern.places = (b.fraction.getD []).length := by rw [pattern]
    obtain ⟨d, -, length, printed⟩ := exists_groupedDecimal grouped exact
      (value.isNegative && (fixedMagnitude b.pattern x).2)
    exact ⟨d, length.trans places, printed⟩

/-- Rounding carries into one more group, and the comma at the end stays a divisor. -/
theorem formatNumber_grouped_carry :
    ',' ∈ thousands.places ∧ (Number.integer (-999999999996)).InRange ∧
      formatNumber (.integer (-999999999996)) "#,##0.00,".toList = .ok "-1,000,000,000.00".toList ∧
      formatNumber (.integer (-999999999996)) "###0.00,".toList = .ok "-1000000000.00".toList ∧
      ∃ d : GroupedDecimal, d.fraction.length = 2 ∧ "-1,000,000,000.00".toList = d.text := by
  have grouped : ',' ∈ thousands.places := by decide +kernel
  have inRange : (Number.integer (-999999999996)).InRange :=
    show (999999999996 : Nat) < Double.overflowLimit by decide +kernel
  obtain ⟨plain, texts⟩ := formatNumber_grouped grouped (.integer (-999999999996))
  have shown : formatNumber (.integer (-999999999996)) thousands.code =
      .ok "-1,000,000,000.00".toList := by decide +kernel
  have without : thousands.ungrouped.code = "###0.00,".toList := by decide +kernel
  rw [shown, without] at plain
  exact ⟨grouped, inRange, shown, plain.symm, (texts inRange).2 _ shown⟩

end SlideMerge.Format
