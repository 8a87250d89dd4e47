import SlideMerge.Proofs.Arithmetic
import SlideMerge.Proofs.Layout

/-!
# What a body of digits asks for

The commas of a whole part have two meanings. Those before its last placeholder ask for groups of
thousands, and those behind it scale, like the commas behind a fraction. So a whole part is cut
behind its last placeholder (`DigitBody.whole_eq`), and the pattern of a body is read off the two
pieces (`DigitBody.pattern_eq`).

Two operations on bodies go with the two kinds of commas: the ones before the last placeholder are
deleted (`DigitBody.ungrouped`), and commas are added at the end (`DigitBody.scaledBy`).

What a body shows of a number is the magnitude that its commas scale, printed with its pattern
(`DigitBody.formatNumber_eq`).
-/

namespace SlideMerge.Format

open Numeric Text

/-! ## Commas at the end of visible text -/

section Marks

variable {front : List Char}

theorem reverse_marked (hidden : Bool) (cs : List Char) :
    (marked hidden cs).reverse = marked hidden cs.reverse :=
  List.map_reverse.symm

theorem trailingCommas_marked (h : ∀ c ∈ front.getLast?, c ≠ ',') (k : Nat) :
    trailingCommas (marked false (front ++ List.replicate k ',')) = k := by
  have commas : ∀ m ∈ marked false (List.replicate k ','), m.isComma := by
    simp [forall_mem_marked]
  have behind : ∀ m ∈ (marked false front.reverse).head?, m.isComma = false := by
    intro m hm
    obtain ⟨c, last, rfl⟩ : ∃ c ∈ front.getLast?, Mark.mk c false = m := by
      simpa [marked, List.head?_map] using hm
    simpa using h c last
  rw [trailingCommas, reverse_marked, List.reverse_append, List.reverse_replicate, marked_append,
    takeWhile_run commas behind]
  simp [marked]

/-- The pattern of a whole part that has so many commas behind its last placeholder. -/
theorem ofParts_marked (h : ∀ c ∈ front.getLast?, c ≠ ',') (k : Nat) (fraction : List Mark) :
    FixedPattern.ofParts (marked false (front ++ List.replicate k ',')) fraction =
      ⟨decide (',' ∈ front), placeholders fraction, k + trailingCommas fraction⟩ := by
  have rest : (marked false (front ++ List.replicate k ',')).length - k =
      (marked false front).length := by
    simp [marked]
  have grouped : (marked false front).any Mark.isComma = decide (',' ∈ front) := by
    rw [Bool.eq_iff_iff, List.any_eq_true, decide_eq_true_eq]
    constructor
    · rintro ⟨m, inFront, comma⟩
      obtain ⟨hc, -⟩ := mem_marked.1 inFront
      obtain ⟨-, same⟩ := Bool.and_eq_true_iff.1 comma
      exact beq_iff_eq.1 same ▸ hc
    · intro comma
      exact ⟨⟨',', false⟩, mem_marked.2 ⟨comma, rfl⟩, rfl⟩
  simp only [FixedPattern.ofParts, trailingCommas_marked h, rest]
  rw [marked_append, List.take_left, grouped]

theorem placeholders_marked {cs : List Char} (h : ∀ c ∈ cs, isDigitPlace c) (k : Nat) :
    placeholders (marked false (cs ++ List.replicate k ',')) = cs.length := by
  have places : ∀ m ∈ marked false cs, m.isPlaceholder := by
    simpa [forall_mem_marked] using h
  have commas : ∀ m ∈ marked false (List.replicate k ','), ¬ m.isPlaceholder := by
    simp [forall_mem_marked, isDigitPlace]
  rw [marked_append, placeholders, List.countP_append, List.countP_eq_length.2 places,
    List.countP_eq_zero.2 commas]
  simp [marked]

end Marks

/-! ## The two pieces of a whole part -/

namespace DigitBody

variable (b : DigitBody)

/-- The whole part up to its last placeholder. -/
def places : List Char :=
  b.whole.rdropWhile (· == ',')

/-- The number of commas behind the last placeholder of the whole part, before the point if there is
one. -/
def wholeCommas : Nat :=
  (b.whole.rtakeWhile (· == ',')).length

theorem whole_eq : b.whole = b.places ++ List.replicate b.wholeCommas ',' :=
  (rdropWhile_append_replicate ',' b.whole).symm

theorem getLast?_places : ∀ c ∈ b.places.getLast?, c ≠ ',' :=
  getLast?_rdropWhile ',' b.whole

variable {b}

theorem cut_unique {front : List Char} {k : Nat} (h : b.whole = front ++ List.replicate k ',')
    (last : ∀ c ∈ front.getLast?, c ≠ ',') : b.places = front ∧ b.wholeCommas = k := by
  have commas : ∀ c ∈ List.replicate k ',', (c == ',') = true := by simp
  have behind : ∀ c ∈ front.reverse.head?, (c == ',') = false := by
    simpa using last
  have pieces : b.whole.reverse = List.replicate k ',' ++ front.reverse := by
    rw [h, List.reverse_append, List.reverse_replicate]
  constructor
  · rw [places, List.rdropWhile, pieces, dropWhile_run commas behind, List.reverse_reverse]
  · rw [wholeCommas, List.rtakeWhile, pieces, takeWhile_run commas behind]
    simp

variable (b)

/-- **What a body asks for:** groups if a comma stands before the last placeholder of its whole
part, as many places as its fraction has placeholders, and a thousandth for each comma behind the
whole part or at the end. -/
theorem pattern_eq :
    b.pattern =
      ⟨decide (',' ∈ b.places), (b.fraction.getD []).length, b.wholeCommas + b.commas⟩ := by
  cases hf : b.fraction with
  | none =>
    have whole : b.whole ++ b.ending =
        b.places ++ List.replicate (b.wholeCommas + b.commas) ',' := by
      rw [← List.replicate_append_replicate, ← List.append_assoc, ← whole_eq]
      rfl
    simp only [pattern, hf, whole, ofParts_marked b.getLast?_places]
    rfl
  | some digits =>
    have digitPlaces := b.fraction_places digits hf
    have last : ∀ c ∈ digits.getLast?, c ≠ ',' := by
      intro c hc comma
      have place := digitPlaces c (List.mem_of_mem_getLast? hc)
      rw [comma] at place
      cases place
    have whole := ofParts_marked b.getLast?_places b.wholeCommas (marked false (digits ++ b.ending))
    rw [← whole_eq] at whole
    simp only [pattern, hf, whole]
    rw [ending, placeholders_marked digitPlaces, trailingCommas_marked last]
    rfl

/-- **A body shows the magnitude that its commas scale,** behind a minus sign if the number is
negative and not all digits are zero. -/
theorem formatNumber_eq (value : Number) :
    formatNumber value b.code =
      (fun x => (if value.isNegative && (fixedMagnitude b.pattern x).2 then ['-'] else []) ++
        (fixedMagnitude b.pattern x).1) <$> value.scaledMagnitude b.pattern.scaling := by
  have printed : printedDigits b.pattern value =
      fixedMagnitude b.pattern <$> value.scaledMagnitude b.pattern.scaling := rfl
  rw [b.formatNumber_code, formatFixed_eq, literalText_nil, if_neg (by simp), printed,
    Functor.map_map]
  simp only [List.append_nil]

/-- **A number in range has a text,** unless a double is divided by more than a double can be. -/
theorem exists_formatNumber_iff {value : Number} (inRange : value.InRange) :
    (∃ text, formatNumber value b.code = .ok text) ↔
      ¬ (value.isReal ∧ 103 ≤ b.pattern.scaling) := by
  rw [b.formatNumber_eq]
  constructor
  · rintro ⟨text, shown⟩ ⟨isReal, many⟩
    cases value with
    | logical => cases isReal
    | integer => cases isReal
    | real x =>
      rw [scaledMagnitude_eq_error x many] at shown
      cases shown
  · intro few
    obtain ⟨x, q, magnitude, -⟩ := exists_scaledMagnitude inRange few
    exact ⟨_, map_eq_ok.2 ⟨x, magnitude, rfl⟩⟩

/-! ## Bodies without groups -/

theorem whole_eq_nil_of_places (h : b.places = []) : b.whole = [] := by
  by_contra filled
  obtain ⟨c, more, whole⟩ := List.exists_cons_of_ne_nil filled
  have place : isDigitPlace c := b.whole_first c (by rw [whole]; rfl)
  have comma : c ∈ List.replicate b.wholeCommas ',' := by
    have parts := b.whole_eq
    rw [h, List.nil_append, whole] at parts
    exact parts ▸ List.mem_cons_self
  rw [List.eq_of_mem_replicate comma] at place
  cases place

theorem head?_filter_places : (b.places.filter (· != ',')).head? = b.whole.head? := by
  cases hp : b.places with
  | nil =>
    rw [b.whole_eq_nil_of_places hp]
    rfl
  | cons c more =>
    have whole : b.whole = c :: (more ++ List.replicate b.wholeCommas ',') := by
      rw [whole_eq, hp, List.cons_append]
    have place : isDigitPlace c := b.whole_first c (by rw [whole]; rfl)
    have other : (c != ',') = true := by
      rw [bne_iff_ne]
      rintro rfl
      cases place
    rw [whole, List.filter_cons, if_pos other]
    rfl

theorem isDigitPlace_of_mem_filter_places {c : Char} (h : c ∈ b.places.filter (· != ',')) :
    isDigitPlace c := by
  obtain ⟨inPlaces, other⟩ := List.mem_filter.1 h
  have inWhole : c ∈ b.whole := by
    rw [whole_eq]
    exact List.mem_append_left _ inPlaces
  exact (b.whole_places c inWhole).resolve_right (bne_iff_ne.1 other)

/-- The body without the commas before the last placeholder of its whole part. -/
def ungrouped : DigitBody where
  whole := b.places.filter (· != ',') ++ List.replicate b.wholeCommas ','
  fraction := b.fraction
  commas := b.commas
  whole_places := by
    intro c hc
    rcases List.mem_append.1 hc with place | comma
    · exact .inl (b.isDigitPlace_of_mem_filter_places place)
    · exact .inr (List.eq_of_mem_replicate comma)
  whole_first := by
    intro c hc
    have first := b.head?_filter_places
    cases hw : b.whole with
    | nil =>
      have none : b.wholeCommas = 0 := by rw [wholeCommas, hw]; rfl
      rw [hw, List.head?_nil, List.head?_eq_none_iff] at first
      rw [first, none] at hc
      cases hc
    | cons d more =>
      rw [hw, List.head?_cons] at first
      rw [List.head?_append, first, Option.some_or] at hc
      exact b.whole_first c (by rw [hw]; exact hc)
  fraction_places := b.fraction_places
  nonempty := by
    intro empty
    have first := b.head?_filter_places
    rw [(List.append_eq_nil_iff.1 empty).1, List.head?_nil, eq_comm, List.head?_eq_none_iff]
      at first
    exact b.nonempty first

/-- **Without the commas that group, the pattern asks for no groups** and for the same places and
scaling. -/
theorem pattern_ungrouped : b.ungrouped.pattern = { b.pattern with grouped := false } := by
  have last : ∀ c ∈ (b.places.filter (· != ',')).getLast?, c ≠ ',' := by
    intro c hc
    exact bne_iff_ne.1 (List.mem_filter.1 (List.mem_of_mem_getLast? hc)).2
  obtain ⟨places, commas⟩ := cut_unique (b := b.ungrouped) rfl last
  rw [pattern_eq, pattern_eq, places, commas]
  simp [ungrouped]

/-! ## Bodies with more commas -/

/-- The body with more commas at its end. -/
def scaledBy (k : Nat) : DigitBody :=
  { b with commas := b.commas + k }

theorem code_scaledBy (k : Nat) : (b.scaledBy k).code = b.code ++ List.replicate k ',' := by
  simp [code, ending, scaledBy]

/-- **Each comma at the end scales once more.** -/
theorem pattern_scaledBy (k : Nat) :
    (b.scaledBy k).pattern = { b.pattern with scaling := b.pattern.scaling + k } := by
  have places : (b.scaledBy k).places = b.places := rfl
  have commas : (b.scaledBy k).wholeCommas = b.wholeCommas := rfl
  rw [pattern_eq, pattern_eq, places, commas]
  simp [scaledBy, Nat.add_assoc]

end DigitBody

end SlideMerge.Format
