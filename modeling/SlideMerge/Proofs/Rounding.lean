import SlideMerge.Proofs.Double

/-!
# Rounding does not cross a half

Half-integers of less than `2^52` lie on the grid of each double below them, so rounding a number to
a double does not take it past one of them, nor past zero (`within_ofRat`). A product by an integer
is rounded once, and so keeps the bounds of the exact product (`Within.mul`), and the integer that
is nearest keeps the bounds that are integers. No product by a positive integer is rounded to zero,
so it keeps the sign (`isNegative_mul`).
-/

namespace SlideMerge.Numeric

theorem roundEven_le_of_le {n : Int} {q : Rat} (h : q ≤ n) : roundEven q ≤ n := by
  rcases h.eq_or_lt with rfl | less
  · rw [roundEven_intCast]
  · exact roundEven_le less

namespace Double

theorem toRat?_ofMantissa {negative : Bool} {mantissa : Nat} {exponent : Int} {r : Rat}
    (h : (ofMantissa negative mantissa exponent).toRat? = some r) :
    r = if negative then -((mantissa : Rat) * 2 ^ exponent)
      else (mantissa : Rat) * 2 ^ exponent := by
  rw [ofMantissa] at h
  split_ifs at h with canonical carried
  · exact (Option.some.inj h).symm
  · have carry : ((Nat.pow 2 52 : Nat) : Rat) * 2 ^ (exponent + 1) = mantissa * 2 ^ exponent := by
      rw [carried.1, zpow_add_one₀ two_ne_zero, Nat.pow_eq, Nat.pow_eq]
      push_cast
      ring
    rw [← carry]
    exact (Option.some.inj h).symm
  · cases h

theorem ofRat_of_ne_zero {q : Rat} (h : q ≠ 0) (zeroNegative : Bool) :
    ofRat q zeroNegative =
      ofMantissa (q < 0) (roundEven (|q| / 2 ^ gridExponent |q|)).toNat (gridExponent |q|) := by
  have magnitude : (if q < 0 then -q else q) = |q| := by
    by_cases negative : q < 0
    · rw [if_pos negative, abs_of_neg negative]
    · rw [if_neg negative, abs_of_nonneg (not_lt.1 negative)]
  simp only [ofRat, if_neg h, magnitude]

theorem toRat?_zero (negative : Bool) : (zero negative).toRat? = some 0 := by
  cases negative <;> simp [zero, toRat?]

/-- A number on one side of zero, at most `k` halves away. -/
def Within (negative : Bool) (k : Nat) (x : Double) : Prop :=
  ∃ r : Rat, x.toRat? = some r ∧ |r| ≤ k / 2 ∧ 0 ≤ (if negative then -r else r)

theorem half_on_grid {q : Rat} (hq : 0 < q) {k : Nat} (hk : k < 2 ^ 53) (h : q ≤ k / 2) :
    ∃ n : Int, (k / 2 : Rat) / 2 ^ gridExponent q = n := by
  have small : q < 2 ^ (52 : Int) := by
    have : (k : Rat) < 2 ^ 53 := by exact_mod_cast hk
    calc q ≤ k / 2 := h
      _ < 2 ^ 53 / 2 := by linarith
      _ = 2 ^ (52 : Int) := by norm_num
  have fine : gridExponent q ≤ -1 := by
    have log : Int.log 2 q < 52 := (Int.lt_zpow_iff_log_lt one_lt_two hq).1 small
    rw [gridExponent, log2Floor_eq hq]
    omega
  obtain ⟨j, hj⟩ := Int.eq_ofNat_of_zero_le (show 0 ≤ -1 - gridExponent q by omega)
  refine ⟨k * 2 ^ j, ?_⟩
  have power : (2 : Rat) ^ gridExponent q * 2 ^ j = 1 / 2 := by
    rw [← zpow_natCast, ← zpow_add₀ two_ne_zero, show gridExponent q + (j : Int) = -1 by omega]
    norm_num
  rw [div_eq_iff (two_zpow_pos _).ne']
  push_cast
  rw [mul_assoc, mul_comm ((2 : Rat) ^ j), power]
  ring

/-- The magnitude of the double that is nearest to a number other than zero. -/
def roundedMagnitude (q : Rat) : Rat :=
  (roundEven (|q| / 2 ^ gridExponent |q|)).toNat * 2 ^ gridExponent |q|

theorem toRat?_ofRat {q r : Rat} (hq : q ≠ 0) {zeroNegative : Bool}
    (h : (ofRat q zeroNegative).toRat? = some r) :
    r = if q < 0 then -roundedMagnitude q else roundedMagnitude q := by
  rw [ofRat_of_ne_zero hq] at h
  rw [toRat?_ofMantissa h, roundedMagnitude]
  by_cases negative : q < 0
  · rw [decide_eq_true negative, if_pos rfl, if_pos negative]
  · rw [decide_eq_false negative, if_neg Bool.false_ne_true, if_neg negative]

theorem roundedMagnitude_bounds {q : Rat} (hq : q ≠ 0) {k : Nat} (hk : k < 2 ^ 53)
    (h : |q| ≤ k / 2) : 0 ≤ roundedMagnitude q ∧ roundedMagnitude q ≤ k / 2 := by
  have unit := two_zpow_pos (gridExponent |q|)
  obtain ⟨n, hn⟩ := half_on_grid (abs_pos.2 hq) hk h
  have rounded : (roundEven (|q| / 2 ^ gridExponent |q|)).toNat ≤ n := by
    have low : (0 : Rat) ≤ n := hn ▸ div_nonneg ((abs_nonneg q).trans h) unit.le
    have low : 0 ≤ n := by exact_mod_cast low
    have high := roundEven_le_of_le (hn ▸ div_le_div_of_nonneg_right h unit.le)
    omega
  refine ⟨mul_nonneg (Nat.cast_nonneg _) unit.le, ?_⟩
  rw [roundedMagnitude, ← le_div_iff₀ unit, hn]
  exact_mod_cast rounded

theorem abs_lt_overflowLimit {q : Rat} {k : Nat} (hk : k < 2 ^ 53) (h : |q| ≤ k / 2) :
    |q| < overflowLimit := by
  have bound : (k : Rat) < 2 ^ 53 := by exact_mod_cast hk
  have limit : (2 : Rat) ^ 53 ≤ overflowLimit := by
    have limit : 2 ^ 53 ≤ overflowLimit := by decide +kernel
    exact_mod_cast limit
  linarith

/-- **Rounding does not cross a half.** -/
theorem within_ofRat {negative : Bool} {k : Nat} (hk : k < 2 ^ 53) {q : Rat} (h : |q| ≤ k / 2)
    (hs : 0 ≤ if negative then -q else q) (zeroNegative : Bool) :
    Within negative k (ofRat q zeroNegative) := by
  by_cases hq : q = 0
  · refine ⟨0, ?_, ?_, ?_⟩
    · rw [hq, ofRat, if_pos rfl, toRat?_zero]
    · rw [abs_zero]
      exact (abs_nonneg q).trans h
    · cases negative <;> simp
  · obtain ⟨r, hr⟩ := Option.isSome_iff_exists.1
      ((isSome_toRat?_ofRat q zeroNegative).2 (abs_lt_overflowLimit hk h))
    refine ⟨r, hr, ?_⟩
    have value := toRat?_ofRat hq hr
    obtain ⟨low, high⟩ := roundedMagnitude_bounds hq hk h
    by_cases below : q < 0
    · rw [if_pos below] at value
      cases negative with
      | false => exact absurd hs (not_le.2 below)
      | true =>
        rw [value, abs_neg, abs_of_nonneg low, if_pos rfl, neg_neg]
        exact ⟨high, low⟩
    · rw [if_neg below] at value
      cases negative with
      | true => exact absurd (le_antisymm (neg_nonneg.1 hs) (not_lt.1 below)) hq
      | false =>
        rw [value, abs_of_nonneg low, if_neg Bool.false_ne_true]
        exact ⟨high, low⟩

theorem Within.mul {negative : Bool} {k c : Nat} {x y : Double} (hx : Within negative k x)
    (hy : y.toRat? = some (c : Rat)) (hk : k * c < 2 ^ 53) : Within negative (k * c) (x.mul y) := by
  obtain ⟨r, hr, bound, side⟩ := hx
  have c_nonneg : (0 : Rat) ≤ c := Nat.cast_nonneg c
  rw [Double.mul, hr, hy]
  refine within_ofRat hk ?_ ?_ _
  · rw [abs_mul, abs_of_nonneg c_nonneg]
    push_cast
    calc |r| * c ≤ k / 2 * c := mul_le_mul_of_nonneg_right bound c_nonneg
      _ = k * c / 2 := by ring
  · cases negative with
    | true => simpa using mul_nonneg side c_nonneg
    | false => simpa using mul_nonneg side c_nonneg

/-! ## Signs -/

section Value

variable {x : Double} {q : Rat}

theorem isNegative_iff (h : x.toRat? = some q) : x.isNegative ↔ q < 0 := by
  cases x with
  | nan => cases h
  | infinite negative => cases h
  | finite negative mantissa exponent canonical =>
    obtain rfl := Option.some.inj h
    have unit := two_zpow_pos exponent
    by_cases zero : mantissa = 0
    · cases negative <;> simp [isNegative, zero]
    · have positive : (0 : Rat) < mantissa * 2 ^ exponent :=
        mul_pos (by exact_mod_cast Nat.pos_of_ne_zero zero) unit
      cases negative with
      | true => simp [isNegative, zero, positive]
      | false => simp [isNegative, positive.le]

theorem isZero_iff : x.isZero ↔ x.toRat? = some 0 := by
  cases x with
  | nan => simp [isZero]
  | infinite negative => simp [isZero]
  | finite negative mantissa exponent =>
    have unit := (two_zpow_pos exponent).ne'
    cases negative <;> simp [isZero, toRat?, unit]

theorem toRat?_abs (h : x.toRat? = some q) : x.abs.toRat? = some |q| := by
  cases x with
  | nan => cases h
  | infinite negative => cases h
  | finite negative mantissa exponent canonical =>
    obtain rfl := Option.some.inj h
    have magnitude : (0 : Rat) ≤ mantissa * 2 ^ exponent :=
      mul_nonneg (Nat.cast_nonneg _) (two_zpow_pos exponent).le
    cases negative <;> simp [abs, toRat?, abs_of_nonneg magnitude]

end Value

theorem isNegative_ofMantissa {negative : Bool} {mantissa : Nat} {exponent : Int}
    (h : mantissa ≠ 0) : (ofMantissa negative mantissa exponent).isNegative = negative := by
  unfold ofMantissa
  split_ifs <;> simp [isNegative, h]

theorem isNegative_ofRat {q : Rat} (h : 2 ^ (-1074 : Int) ≤ |q|) (zeroNegative : Bool) :
    (ofRat q zeroNegative).isNegative = decide (q < 0) := by
  have magnitude : 0 < |q| := (two_zpow_pos _).trans_le h
  have scaled : (1 : Int) ≤ |q| / 2 ^ gridExponent |q| := by
    by_cases finest : gridExponent |q| = -1074
    · rw [finest, Int.cast_one, one_le_div (two_zpow_pos _)]
      exact h
    · have bits : (1 : Rat) ≤ 2 ^ 52 := one_le_pow₀ one_le_two
      exact_mod_cast bits.trans (le_scaled magnitude finest)
  have rounded : (roundEven (|q| / 2 ^ gridExponent |q|)).toNat ≠ 0 := by
    have := le_roundEven scaled
    omega
  rw [ofRat_of_ne_zero (abs_pos.1 magnitude), isNegative_ofMantissa rounded]

theorem two_zpow_le_abs (negative : Bool) {mantissa : Nat} {exponent : Int}
    (h : IsCanonical mantissa exponent) (hm : mantissa ≠ 0) :
    (2 : Rat) ^ (-1074 : Int) ≤
      |if negative then -((mantissa : Rat) * 2 ^ exponent)
        else (mantissa : Rat) * 2 ^ exponent| := by
  have unit : (2 : Rat) ^ (-1074 : Int) ≤ 2 ^ exponent := zpow_le_zpow_right₀ one_le_two h.2.1
  have one : (1 : Rat) ≤ mantissa := by exact_mod_cast Nat.one_le_iff_ne_zero.2 hm
  have magnitude : (2 : Rat) ^ (-1074 : Int) ≤ mantissa * 2 ^ exponent :=
    unit.trans (le_mul_of_one_le_left (two_zpow_pos _).le one)
  cases negative with
  | true => simpa [abs_of_pos (two_zpow_pos exponent)] using magnitude
  | false => simpa [abs_of_pos (two_zpow_pos exponent)] using magnitude

/-- **A product by a positive integer keeps the sign of the other factor.** -/
theorem isNegative_mul {x y : Double} {c : Nat} (hy : y.toRat? = some (c : Rat))
    (sign : y.signBit = false) (hc : 0 < c) : (x.mul y).isNegative = x.isNegative := by
  have one : (1 : Rat) ≤ c := by exact_mod_cast hc
  have notNan : y ≠ nan := by
    intro h
    simp [h] at hy
  have notZero : y.isZero = false := by
    cases y with
    | nan | infinite => rfl
    | finite negative mantissa exponent canonical =>
      by_contra zero
      have empty : mantissa = 0 := by simpa [isZero] using zero
      have value : (c : Rat) = 0 := by simpa [toRat?, empty] using (Option.some.inj hy).symm
      linarith
  have signs : (x.signBit != y.signBit) = x.signBit := by rw [sign, Bool.bne_false]
  unfold mul
  rw [signs, hy]
  cases x with
  | nan => simp
  | infinite negative =>
    have nonzero : (infinite negative).isZero = false := rfl
    simp [nonzero, notNan, notZero, isNegative, signBit]
  | finite negative mantissa exponent canonical =>
    simp only [toRat?]
    by_cases hm : mantissa = 0
    · cases negative <;> simp [hm, ofRat, zero, isNegative]
    · have magnitude := two_zpow_le_abs negative canonical hm
      have unit : (0 : Rat) < mantissa * 2 ^ exponent :=
        mul_pos (Nat.cast_pos.2 (Nat.pos_of_ne_zero hm)) (two_zpow_pos exponent)
      generalize (mantissa : Rat) * 2 ^ exponent = q at *
      have product : (2 : Rat) ^ (-1074 : Int) ≤ |(if negative then -q else q) * c| := by
        rw [abs_mul, abs_of_pos (zero_lt_one.trans_le one)]
        exact magnitude.trans (le_mul_of_one_le_right (abs_nonneg _) one)
      have positive : 0 < q * c := mul_pos unit (zero_lt_one.trans_le one)
      rw [isNegative_ofRat product]
      cases negative with
      | true => simp [isNegative, hm, positive]
      | false => simpa [isNegative] using positive.le

end Double

end SlideMerge.Numeric
