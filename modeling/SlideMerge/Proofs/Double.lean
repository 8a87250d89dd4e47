import Mathlib.Algebra.Order.Field.Power
import Mathlib.Data.Int.Log
import Mathlib.Data.Rat.Floor
import Mathlib.Tactic.Linarith
import Mathlib.Tactic.NormNum
import SlideMerge.Numeric.Double

/-!
# Where doubles end

Rounding takes a rational to the grid of doubles around it, which has 53 bits. The mantissa that
results lies between `2^52` and `2^53`, or below them at the least exponent. So whether the result
is finite depends on the exponent alone, but for the numbers just below `2^1024`: these are on the
last grid, and their mantissa is carried to `2^53` from the half-way point on, for a tie goes to the
even neighbour.

Main result: `isSome_toRat?_ofRat`, that a number rounds to a finite one if it is below the half-way
point between the largest finite number and `2^1024`.
-/

namespace SlideMerge.Numeric

/-! ## Rounding to integers -/

theorem le_roundEven {n : Int} {q : Rat} (h : n ≤ q) : n ≤ roundEven q :=
  (Rat.le_floor_iff.2 h).trans (floor_le_roundEven q).1

theorem roundEven_le {n : Int} {q : Rat} (h : q < n) : roundEven q ≤ n := by
  have hf : q.floor < n := Rat.floor_lt_iff.2 h
  have hr := (floor_le_roundEven q).2
  omega

theorem roundEven_le_iff_of_odd {n : Int} (hn : n % 2 = 1) {q : Rat} :
    roundEven q ≤ n ↔ q < n + 1 / 2 := by
  have below := Rat.floor_le q
  have above := Rat.lt_floor_add_one q
  push_cast at above
  rcases lt_trichotomy q.floor n with h | h | h
  · have hq : (q.floor : Rat) + 1 ≤ n := by exact_mod_cast h
    have hr := (floor_le_roundEven q).2
    exact iff_of_true (by omega) (by linarith)
  · have odd : ¬ q.floor % 2 = 0 := by omega
    rw [roundEven, if_neg odd, h]
    by_cases hlt : q - n < 1 / 2
    · rw [if_pos hlt]
      exact iff_of_true le_rfl (by linarith)
    · rw [if_neg hlt, ite_self]
      exact iff_of_false (by omega) (by linarith)
  · have hq : (n : Rat) + 1 ≤ q.floor := by exact_mod_cast h
    have hr := (floor_le_roundEven q).1
    exact iff_of_false (by omega) (by linarith)

/-! ## Logarithms -/

/-- **The logarithm of a quotient is estimated from those of its numerator and its denominator,**
and the estimate is at most one too large. -/
theorem log_eq_of_estimate {base : Nat} (one : 1 < base) {q : Rat} (h : 0 < q) {m n : Int}
    (num : (base : Rat) ^ m ≤ q.num.natAbs ∧ (q.num.natAbs : Rat) < base ^ (m + 1))
    (den : (base : Rat) ^ n ≤ q.den ∧ (q.den : Rat) < base ^ (n + 1)) :
    (if q < base ^ (m - n) then m - n - 1 else m - n) = Int.log base q := by
  have positive : (0 : Rat) < base := by exact_mod_cast one.trans' Nat.zero_lt_one
  have power (k : Int) : (0 : Rat) < base ^ k := zpow_pos positive k
  have filled : (0 : Rat) < q.den := by exact_mod_cast q.den_pos
  have hq : q = (q.num.natAbs : Rat) / q.den := by
    rw [Nat.cast_natAbs, abs_of_pos (Rat.num_pos.2 h), Rat.num_div_den]
  have low : (base : Rat) ^ (m - (n + 1)) ≤ q := by
    rw [hq, zpow_sub₀ positive.ne']
    exact div_le_div₀ (Nat.cast_nonneg _) num.1 filled den.2.le
  have high : q < (base : Rat) ^ (m + 1 - n) := by
    rw [hq, zpow_sub₀ positive.ne']
    exact div_lt_div₀ num.2 den.1 (power _).le (power _)
  have atLeast : m - (n + 1) ≤ Int.log base q := (Int.zpow_le_iff_le_log one h).1 low
  have below : Int.log base q < m + 1 - n := (Int.lt_zpow_iff_log_lt one h).1 high
  by_cases less : q < base ^ (m - n)
  · have lower : Int.log base q < m - n := (Int.lt_zpow_iff_log_lt one h).1 less
    rw [if_pos less]
    omega
  · have upper : m - n ≤ Int.log base q := (Int.zpow_le_iff_le_log one h).1 (not_lt.1 less)
    rw [if_neg less]
    omega

namespace Double

/-! ## The grid around a number -/

theorem two_zpow_pos (n : Int) : (0 : Rat) < 2 ^ n := zpow_pos two_pos n

theorem two_zpow_log2 {n : Nat} (h : n ≠ 0) :
    (2 : Rat) ^ (n.log2 : Int) ≤ n ∧ (n : Rat) < 2 ^ (n.log2 + 1 : Int) := by
  constructor
  · exact_mod_cast Nat.log2_self_le h
  · exact_mod_cast Nat.lt_log2_self

theorem log2Floor_eq {q : Rat} (h : 0 < q) : log2Floor q = Int.log 2 q := by
  have filled : q.num.natAbs ≠ 0 := Int.natAbs_ne_zero.2 (Rat.num_pos.2 h).ne'
  exact log_eq_of_estimate one_lt_two h (two_zpow_log2 filled) (two_zpow_log2 q.den_nz)

section Grid

variable {q : Rat}

theorem neg_le_gridExponent (q : Rat) : -1074 ≤ gridExponent q :=
  le_max_left _ _

/-- On its grid a number has at most 53 bits. -/
theorem scaled_lt (h : 0 < q) : q / 2 ^ gridExponent q < 2 ^ 53 := by
  have hl : q < 2 ^ (Int.log 2 q + 1) := Int.lt_zpow_succ_log_self one_lt_two q
  have he : Int.log 2 q + 1 ≤ 53 + gridExponent q := by
    rw [gridExponent, log2Floor_eq h]
    omega
  rw [div_lt_iff₀ (two_zpow_pos _)]
  calc q < 2 ^ (Int.log 2 q + 1) := hl
    _ ≤ 2 ^ (53 + gridExponent q) := zpow_le_zpow_right₀ one_le_two he
    _ = 2 ^ 53 * 2 ^ gridExponent q := zpow_add₀ two_ne_zero 53 _

/-- On its grid a number has all 53 bits unless the grid is the finest one. -/
theorem le_scaled (h : 0 < q) (he : gridExponent q ≠ -1074) :
    2 ^ 52 ≤ q / 2 ^ gridExponent q := by
  have hl : (2 : Rat) ^ Int.log 2 q ≤ q := Int.zpow_log_le_self one_lt_two h
  have hg : 52 + gridExponent q = Int.log 2 q := by
    rw [gridExponent, log2Floor_eq h] at he ⊢
    omega
  rw [le_div_iff₀ (two_zpow_pos _)]
  calc (2 : Rat) ^ 52 * 2 ^ gridExponent q = 2 ^ (52 + gridExponent q) :=
        (zpow_add₀ two_ne_zero 52 _).symm
    _ ≤ q := hg ▸ hl

end Grid

/-! ## The largest numbers -/

/-- Half-way between the largest finite number and `2^1024`: from there on, rounding is infinite. -/
def overflowLimit : Nat :=
  2 ^ 1024 - 2 ^ 970

theorem cast_overflowLimit : (overflowLimit : Rat) = (2 ^ 53 - 1 / 2) * 2 ^ (971 : Int) := by
  have hle : 2 ^ 970 ≤ 2 ^ 1024 := pow_le_pow_right₀ one_le_two (by decide)
  have h₁ : (2 : Rat) ^ 1024 = 2 ^ 53 * 2 ^ 971 := pow_add 2 53 971
  have h₂ : (2 : Rat) ^ 971 = 2 ^ 970 * 2 := pow_succ 2 970
  rw [overflowLimit, Nat.cast_sub hle, Nat.cast_pow, Nat.cast_pow, Nat.cast_ofNat, h₁, zpow_ofNat,
    h₂]
  generalize (2 : Rat) ^ 970 = unit
  ring

theorem overflowLimit_pos : 0 < overflowLimit := by
  have positive : (0 : Rat) < overflowLimit := by
    rw [cast_overflowLimit]
    exact mul_pos (by norm_num) (two_zpow_pos _)
  exact_mod_cast positive

theorem isSome_toRat?_ofMantissa {negative : Bool} {mantissa : Nat} {exponent : Int} :
    (ofMantissa negative mantissa exponent).toRat?.isSome ↔
      IsCanonical mantissa exponent ∨
        mantissa = Nat.pow 2 53 ∧ IsCanonical (Nat.pow 2 52) (exponent + 1) := by
  rw [ofMantissa]
  split_ifs with h₁ h₂
  · exact iff_of_true rfl (Or.inl h₁)
  · exact iff_of_true rfl (Or.inr h₂)
  · exact iff_of_false Bool.false_ne_true (not_or.2 ⟨h₁, h₂⟩)

theorem mul_lt_overflowLimit {x : Rat} {e : Int} (hx : x < 2 ^ 53) (he : e < 971) :
    x * 2 ^ e < overflowLimit := by
  have grid : (2 : Rat) ^ e ≤ 2 ^ (970 : Int) := zpow_le_zpow_right₀ one_le_two (by omega)
  have last : (2 : Rat) ^ (971 : Int) = 2 ^ (970 : Int) * 2 := zpow_add_one₀ two_ne_zero 970
  have unit_pos := two_zpow_pos 970
  rw [cast_overflowLimit, last]
  generalize (2 : Rat) ^ (970 : Int) = unit at *
  calc x * 2 ^ e < 2 ^ 53 * 2 ^ e := mul_lt_mul_of_pos_right hx (two_zpow_pos e)
    _ ≤ 2 ^ 53 * unit := mul_le_mul_of_nonneg_left grid (by norm_num)
    _ ≤ (2 ^ 53 - 1 / 2) * (unit * 2) := by linarith only [unit_pos]

/-- The numbers with all bits on a coarser grid than the last one are above the limit. -/
theorem overflowLimit_le_mul {x : Rat} {e : Int} (hx : 2 ^ 52 ≤ x) (he : 971 < e) :
    overflowLimit ≤ x * 2 ^ e := by
  have grid : (2 : Rat) ^ (971 : Int) * 2 ≤ 2 ^ e := by
    rw [← zpow_add_one₀ two_ne_zero 971]
    exact zpow_le_zpow_right₀ one_le_two (by omega)
  have unit_pos := two_zpow_pos 971
  rw [cast_overflowLimit]
  generalize (2 : Rat) ^ (971 : Int) = unit at *
  calc (2 ^ 53 - 1 / 2) * unit ≤ 2 ^ 52 * (unit * 2) := by linarith only [unit_pos]
    _ ≤ x * 2 ^ e := mul_le_mul hx grid (by linarith only [unit_pos]) (by linarith only [hx])

theorem isSome_toRat?_rounded {q : Rat} (h : 0 < q) (negative : Bool) :
    (ofMantissa negative (roundEven (q / 2 ^ gridExponent q)).toNat
      (gridExponent q)).toRat?.isSome ↔
      q < overflowLimit := by
  have mantissaLt := scaled_lt h
  have mantissaGe := le_scaled h
  have least := neg_le_gridExponent q
  have scaled : q = q / 2 ^ gridExponent q * 2 ^ gridExponent q :=
    (div_mul_cancel₀ q (two_zpow_pos _).ne').symm
  rw [isSome_toRat?_ofMantissa, IsCanonical, IsCanonical, Nat.pow_eq, Nat.pow_eq]
  generalize gridExponent q = e at *
  generalize q / 2 ^ e = x at *
  have rounded : roundEven x ≤ 2 ^ 53 := roundEven_le (by exact_mod_cast mantissaLt)
  have full : e ≠ -1074 → 2 ^ 52 ≤ roundEven x := fun he =>
    le_roundEven (by exact_mod_cast mantissaGe he)
  rw [scaled]
  rcases lt_trichotomy e 971 with he | rfl | he
  · -- the mantissa may even be carried
    exact iff_of_true (by omega) (mul_lt_overflowLimit mantissaLt he)
  · -- a mantissa that is carried has no place, and half-way it is carried
    have half : roundEven x ≤ 2 ^ 53 - 1 ↔ x < 2 ^ 53 - 1 / 2 := by
      rw [roundEven_le_iff_of_odd (by decide)]
      norm_num
    rw [cast_overflowLimit, mul_lt_mul_iff_left₀ (two_zpow_pos _), ← half]
    omega
  · -- no mantissa has a place
    have bits : 2 ^ 52 ≤ x := mantissaGe (by omega)
    exact iff_of_false (by omega) (not_lt.2 (overflowLimit_le_mul bits he))

/-- **A number rounds to a finite one if it is below the limit, and to an infinite one
otherwise.** -/
theorem isSome_toRat?_ofRat (q : Rat) (zeroNegative : Bool) :
    (ofRat q zeroNegative).toRat?.isSome ↔ |q| < overflowLimit := by
  rw [ofRat]
  by_cases hq : q = 0
  · rw [if_pos hq, hq, abs_zero]
    exact iff_of_true rfl (Nat.cast_pos.2 overflowLimit_pos)
  · have magnitude : (if q < 0 then -q else q) = |q| := by
      by_cases hneg : q < 0
      · rw [if_pos hneg, abs_of_neg hneg]
      · rw [if_neg hneg, abs_of_nonneg (not_lt.1 hneg)]
    simp only [if_neg hq, magnitude]
    exact isSome_toRat?_rounded (abs_pos.2 hq) _

theorem abs_intCast_lt_iff {n : Int} {limit : Nat} : |(n : Rat)| < limit ↔ n.natAbs < limit := by
  rw [← Int.cast_abs, Int.abs_eq_natAbs]
  exact_mod_cast Iff.rfl

/-- An integer is near to a finite number if it is below the limit. -/
theorem isSome_ofInt? (n : Int) : (ofInt? n).isSome ↔ n.natAbs < overflowLimit := by
  have finite : (ofInt? n).isSome = (ofRat n false).toRat?.isSome := by
    rw [ofInt?]
    cases ofRat n false <;> rfl
  rw [finite, isSome_toRat?_ofRat, abs_intCast_lt_iff]

end Double

end SlideMerge.Numeric
