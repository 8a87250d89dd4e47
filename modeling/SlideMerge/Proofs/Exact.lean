import SlideMerge.Proofs.Rounding

/-!
# Numbers that are doubles

The value of a double lies on the grid of doubles around it (`OnGrid`), and rounding does not change
what is on the grid and below the limit (`toRat?_ofRat_of_onGrid`). So a number that a double stands
for is rounded to itself (`toRat?_ofRat_of_toRat?`).

The double nearest to a natural number is a natural number (`exists_ofInt?_natCast`): below `2^53`
the grid has all of them, and above it has no fractions. All natural numbers up to `2^53` are
doubles (`exists_toRat?_of_le`).
-/

namespace SlideMerge.Numeric.Double

/-! ## Doubles round to themselves -/

/-- On the grid of doubles around it, the magnitude is an integer. -/
def OnGrid (q : Rat) : Prop :=
  ∃ m : Nat, |q| = m * 2 ^ gridExponent |q|

theorem gridExponent_le {q : Rat} (hq : 0 < q) {e : Int} (least : -1074 ≤ e)
    (h : q < 2 ^ 53 * 2 ^ e) :
    gridExponent q ≤ e := by
  have power : q < 2 ^ (53 + e) := by
    rw [zpow_add₀ two_ne_zero]
    exact h
  have log : Int.log 2 q < 53 + e :=
    (Int.lt_zpow_iff_log_lt one_lt_two hq).1 (by exact_mod_cast power)
  rw [gridExponent, log2Floor_eq hq]
  omega

theorem onGrid_of_multiple {q : Rat} {m : Nat} {e : Int} (h : |q| = m * 2 ^ e)
    (fine : gridExponent |q| ≤ e) : OnGrid q := by
  obtain ⟨j, hj⟩ := Int.eq_ofNat_of_zero_le (Int.sub_nonneg.2 fine)
  have unit : (2 : Rat) ^ e = 2 ^ j * 2 ^ gridExponent |q| := by
    rw [← zpow_natCast, ← zpow_add₀ two_ne_zero, ← hj, Int.sub_add_cancel]
  refine ⟨m * 2 ^ j, h.trans ?_⟩
  rw [unit]
  push_cast
  ring

section Value

variable {x : Double} {q : Rat} (h : x.toRat? = some q)

include h

/-- The magnitude of a finite double is its mantissa, in units of its exponent. -/
theorem exists_canonical_of_toRat? :
    ∃ (mantissa : Nat) (exponent : Int), IsCanonical mantissa exponent ∧
      |q| = mantissa * 2 ^ exponent := by
  cases x with
  | nan => cases h
  | infinite negative => cases h
  | finite negative mantissa exponent canonical =>
    obtain rfl := Option.some.inj h
    refine ⟨mantissa, exponent, canonical, ?_⟩
    have magnitude : (0 : Rat) ≤ mantissa * 2 ^ exponent :=
      mul_nonneg (Nat.cast_nonneg _) (two_zpow_pos exponent).le
    cases negative <;> simp [abs_of_nonneg magnitude]

theorem onGrid_of_toRat? (hq : q ≠ 0) : OnGrid q := by
  obtain ⟨mantissa, exponent, ⟨bits, least, -⟩, value⟩ := exists_canonical_of_toRat? h
  refine onGrid_of_multiple value (gridExponent_le (abs_pos.2 hq) least ?_)
  have bits : (mantissa : Rat) < 2 ^ 53 := by exact_mod_cast bits
  rw [value]
  exact mul_lt_mul_of_pos_right bits (two_zpow_pos exponent)

theorem abs_lt_overflowLimit_of_toRat? : |q| < overflowLimit := by
  obtain ⟨mantissa, exponent, ⟨bits, -, last, -⟩, value⟩ := exists_canonical_of_toRat? h
  rw [value]
  rcases last.lt_or_eq with below | rfl
  · have bits : (mantissa : Rat) < 2 ^ 53 := by exact_mod_cast bits
    exact mul_lt_overflowLimit bits below
  · have bits : (mantissa : Rat) + 1 ≤ 2 ^ 53 := by exact_mod_cast bits
    rw [cast_overflowLimit]
    exact mul_lt_mul_of_pos_right (by linarith) (two_zpow_pos 971)

end Value

theorem roundedMagnitude_of_onGrid {q : Rat} (h : OnGrid q) : roundedMagnitude q = |q| := by
  obtain ⟨m, value⟩ := h
  have scaled : |q| / 2 ^ gridExponent |q| = ((m : Int) : Rat) := by
    rw [div_eq_iff (two_zpow_pos _).ne', Int.cast_natCast]
    exact value
  rw [roundedMagnitude, scaled, roundEven_intCast, Int.toNat_natCast]
  exact value.symm

theorem toRat?_ofRat_of_onGrid {q : Rat} (hq : q ≠ 0) (grid : OnGrid q)
    (small : |q| < overflowLimit)
    (zeroNegative : Bool) : (ofRat q zeroNegative).toRat? = some q := by
  obtain ⟨r, hr⟩ := Option.isSome_iff_exists.1 ((isSome_toRat?_ofRat q zeroNegative).2 small)
  have value := toRat?_ofRat hq hr
  rw [roundedMagnitude_of_onGrid grid] at value
  have same : r = q := by
    by_cases negative : q < 0
    · rw [value, if_pos negative, abs_of_neg negative, neg_neg]
    · rw [value, if_neg negative, abs_of_nonneg (not_lt.1 negative)]
  rw [hr, same]

/-- **A number that a double stands for rounds to one that stands for it.** -/
theorem toRat?_ofRat_of_toRat? {x : Double} {q : Rat} (h : x.toRat? = some q)
    (zeroNegative : Bool) :
    (ofRat q zeroNegative).toRat? = some q := by
  by_cases hq : q = 0
  · rw [hq, ofRat, if_pos rfl, toRat?_zero]
  · exact toRat?_ofRat_of_onGrid hq (onGrid_of_toRat? h hq) (abs_lt_overflowLimit_of_toRat? h)
      zeroNegative

/-! ## Integers -/

theorem ofInt?_eq {n : Int} (h : (ofRat n false).toRat?.isSome) :
    ofInt? n = some (ofRat n false) := by
  rw [ofInt?]
  cases nearest : ofRat n false with
  | finite => rfl
  | nan | infinite =>
    rw [nearest] at h
    cases h

theorem onGrid_natCast {n : Nat} (fine : gridExponent |(n : Rat)| ≤ 0) : OnGrid n := by
  have whole : |(n : Rat)| = n * 2 ^ (0 : Int) := by simp
  exact onGrid_of_multiple whole fine

/-- **A natural number rounds to a natural number,** and not to zero unless it is zero. -/
theorem exists_nat_roundedMagnitude {n : Nat} (hn : n ≠ 0) :
    ∃ m : Nat, m ≠ 0 ∧ roundedMagnitude n = m := by
  have positive : 0 < |(n : Rat)| := by simpa using Nat.pos_of_ne_zero hn
  rcases le_or_gt (gridExponent |(n : Rat)|) 0 with fine | coarse
  · refine ⟨n, hn, ?_⟩
    rw [roundedMagnitude_of_onGrid (onGrid_natCast fine), Nat.abs_cast]
  · have bits := le_scaled positive (by omega)
    have rounded : 2 ^ 52 ≤ roundEven (|(n : Rat)| / 2 ^ gridExponent |(n : Rat)|) :=
      le_roundEven (by exact_mod_cast bits)
    obtain ⟨j, hj⟩ := Int.eq_ofNat_of_zero_le coarse.le
    rw [roundedMagnitude]
    generalize roundEven (|(n : Rat)| / 2 ^ gridExponent |(n : Rat)|) = k at rounded ⊢
    refine ⟨k.toNat * 2 ^ j, mul_ne_zero (by omega) (by positivity), ?_⟩
    rw [hj, zpow_natCast]
    push_cast
    rfl

/-- **The double nearest to a natural number below the limit is one.** -/
theorem exists_ofInt?_natCast {n : Nat} (h : n < overflowLimit) :
    ∃ (x : Double) (m : Nat), ofInt? n = some x ∧ x.toRat? = some (m : Rat) ∧ (m = 0 ↔ n = 0) := by
  by_cases hn : n = 0
  · subst hn
    exact ⟨.zero false, 0, rfl, by rw [toRat?_zero, Nat.cast_zero], Iff.rfl⟩
  · have small : |(n : Rat)| < overflowLimit := by
      rw [Nat.abs_cast]
      exact_mod_cast h
    have finite := (isSome_toRat?_ofRat n false).2 small
    obtain ⟨r, hr⟩ := Option.isSome_iff_exists.1 finite
    obtain ⟨m, hm, value⟩ := exists_nat_roundedMagnitude hn
    have rounded := toRat?_ofRat (Nat.cast_ne_zero.2 hn) hr
    rw [if_neg (not_lt.2 (Nat.cast_nonneg n)), value] at rounded
    exact ⟨_, m, ofInt?_eq finite, rounded ▸ hr, iff_of_false hm hn⟩

/-- Rounding keeps a natural number if a double stands for it. -/
theorem toRat?_ofInt?_iff {n m : Nat} {x : Double} (h : ofInt? n = some x)
    (value : x.toRat? = some (m : Rat)) : m = n ↔ ∃ y : Double, y.toRat? = some (n : Rat) := by
  constructor
  · rintro rfl
    exact ⟨x, value⟩
  · rintro ⟨y, hy⟩
    have kept := toRat?_ofRat_of_toRat? hy false
    have finite : (ofRat ((n : Int) : Rat) false).toRat?.isSome := by
      rw [Int.cast_natCast, kept]
      rfl
    obtain rfl := Option.some.inj (h.symm.trans (ofInt?_eq finite))
    rw [Int.cast_natCast, kept] at value
    exact_mod_cast (Option.some.inj value).symm

/-- The doubles on both sides of zero are alike. -/
theorem exists_toRat?_neg {x : Double} {q : Rat} (h : x.toRat? = some q) :
    ∃ y : Double, y.toRat? = some (-q) := by
  cases x with
  | nan => cases h
  | infinite negative => cases h
  | finite negative mantissa exponent canonical =>
    obtain rfl := Option.some.inj h
    refine ⟨.finite (!negative) mantissa exponent canonical, ?_⟩
    cases negative <;> simp [toRat?]

/-- A double stands for the magnitude of an integer if one stands for the integer. -/
theorem exists_toRat?_natAbs (n : Int) :
    (∃ x : Double, x.toRat? = some (n.natAbs : Rat)) ↔ ∃ x : Double, x.toRat? = some (n : Rat) := by
  rw [Nat.cast_natAbs]
  rcases abs_choice n with same | opposite
  · rw [same]
  · rw [opposite, Int.cast_neg]
    constructor
    · rintro ⟨x, hx⟩
      obtain ⟨y, hy⟩ := exists_toRat?_neg hx
      exact ⟨y, neg_neg (n : Rat) ▸ hy⟩
    · rintro ⟨x, hx⟩
      exact exists_toRat?_neg hx

/-- **The natural numbers up to `2^53` are doubles.** -/
theorem exists_toRat?_of_le {n : Nat} (h : n ≤ 2 ^ 53) :
    ∃ x : Double, x.toRat? = some (n : Rat) := by
  by_cases hn : n = 0
  · exact ⟨.zero false, by rw [hn, toRat?_zero, Nat.cast_zero]⟩
  rcases h.lt_or_eq with below | rfl
  · have bits : |(n : Rat)| < 2 ^ 53 := by
      rw [Nat.abs_cast]
      exact_mod_cast below
    have positive : 0 < |(n : Rat)| := by simpa using Nat.pos_of_ne_zero hn
    have fine : gridExponent |(n : Rat)| ≤ 0 :=
      gridExponent_le positive (by decide) (by simpa using bits)
    have small := mul_lt_overflowLimit bits (show (0 : Int) < 971 by decide)
    rw [zpow_zero, mul_one] at small
    exact ⟨_, toRat?_ofRat_of_onGrid (Nat.cast_ne_zero.2 hn) (onGrid_natCast fine) small false⟩
  · refine ⟨.finite false (Nat.pow 2 52) 1 (by decide), ?_⟩
    norm_num [toRat?]

end SlideMerge.Numeric.Double
