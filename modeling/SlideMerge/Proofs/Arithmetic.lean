import SlideMerge.Proofs.Exact
import SlideMerge.Proofs.NumberCode

/-!
# The arithmetic of number codes

Before a number is written it may be multiplied by a hundred and divided by a power of a thousand,
and its magnitude is taken as a double.

* **Doubles.** A finite double is the one that its value rounds to (`Double.ofRat_of_toRat?`), and
  the magnitude of a rounded number is the rounded magnitude (`Double.abs_ofRat`). So what the
  operations give depends on exact values alone.
* **Quotients** (`Number.scaledMagnitude`). An integer is divided exactly and rounded once
  (`scaledMagnitude_integer`), a double by a double (`scaledMagnitude_real`). Numbers that finite
  doubles are near to (`Number.InRange`) have such a quotient, unless a double is divided by
  `1000^103` or more (`exists_scaledMagnitude`).
* **Storage.** An integer and a double of the same value have the same quotients as long as the
  divisor is exact (`scaledMagnitude_eq_real`), and the same hundredfold (`toRat?_timesHundred`).
-/

namespace SlideMerge.Numeric.Double

/-! ## Doubles and their values -/

theorem abs_ofMantissa (negative : Bool) (mantissa : Nat) (exponent : Int) :
    (ofMantissa negative mantissa exponent).abs = ofMantissa false mantissa exponent := by
  unfold ofMantissa
  split_ifs <;> rfl

/-- **The magnitude of a rounded number is the rounded magnitude.** -/
theorem abs_ofRat (q : Rat) (zeroNegative : Bool) :
    (ofRat q zeroNegative).abs = ofRat |q| false := by
  by_cases zero : q = 0
  · rw [zero, abs_zero, ofRat, ofRat, if_pos rfl, if_pos rfl]
    rfl
  · have positive : ¬ |q| < 0 := not_lt.2 (abs_nonneg q)
    rw [ofRat_of_ne_zero zero, ofRat_of_ne_zero (abs_ne_zero.2 zero), abs_ofMantissa,
      abs_of_nonneg (abs_nonneg q), decide_eq_false positive]

theorem gridExponent_of_isCanonical {mantissa : Nat} {exponent : Int}
    (h : IsCanonical mantissa exponent)
    (filled : mantissa ≠ 0) : gridExponent (mantissa * 2 ^ exponent) = exponent := by
  obtain ⟨bits, least, -, full⟩ := h
  have unit := two_zpow_pos exponent
  have positive : (0 : Rat) < mantissa * 2 ^ exponent :=
    mul_pos (by exact_mod_cast Nat.pos_of_ne_zero filled) unit
  have bits : (mantissa : Rat) < 2 ^ 53 := by exact_mod_cast bits
  have atMost := gridExponent_le positive least (mul_lt_mul_of_pos_right bits unit)
  rcases full with rfl | full
  · exact le_antisymm atMost (neg_le_gridExponent _)
  · have power : (2 : Rat) ^ (52 + exponent) ≤ mantissa * 2 ^ exponent := by
      have full : (2 : Rat) ^ 52 ≤ mantissa := by exact_mod_cast full
      rw [zpow_add₀ two_ne_zero]
      exact mul_le_mul_of_nonneg_right full unit.le
    have log : 52 + exponent ≤ Int.log 2 ((mantissa : Rat) * 2 ^ exponent) :=
      (Int.zpow_le_iff_le_log one_lt_two positive).1 (by exact_mod_cast power)
    refine le_antisymm atMost ?_
    rw [gridExponent, log2Floor_eq positive]
    omega

/-- **A finite double is the one that its value rounds to.** -/
theorem ofRat_of_toRat? {x : Double} {q : Rat} (h : x.toRat? = some q) : ofRat q x.signBit = x := by
  cases x with
  | nan => cases h
  | infinite negative => cases h
  | finite negative mantissa exponent canonical =>
    obtain rfl := Option.some.inj h
    by_cases empty : mantissa = 0
    · subst empty
      have finest : exponent = -1074 := canonical.2.2.2.resolve_right (by decide)
      subst finest
      cases negative <;> simp [ofRat, zero, signBit]
    · have unit := two_zpow_pos exponent
      have positive : (0 : Rat) < mantissa * 2 ^ exponent :=
        mul_pos (by exact_mod_cast Nat.pos_of_ne_zero empty) unit
      have grid := gridExponent_of_isCanonical canonical empty
      have scaled : (mantissa : Rat) * 2 ^ exponent / 2 ^ exponent = ((mantissa : Int) : Rat) := by
        rw [mul_div_cancel_right₀ _ unit.ne', Int.cast_natCast]
      have same : ofMantissa negative mantissa exponent =
          finite negative mantissa exponent canonical :=
        dif_pos canonical
      cases negative with
      | true =>
        rw [if_pos rfl, ofRat_of_ne_zero (neg_ne_zero.2 positive.ne'), abs_neg, abs_of_pos positive,
          grid, scaled, roundEven_intCast, Int.toNat_natCast,
          decide_eq_true (neg_lt_zero.2 positive)]
        exact same
      | false =>
        rw [if_neg Bool.false_ne_true, ofRat_of_ne_zero positive.ne', abs_of_pos positive, grid,
          scaled, roundEven_intCast, Int.toNat_natCast, decide_eq_false (not_lt.2 positive.le)]
        exact same

/-- The magnitude of a finite double is that of its value. -/
theorem abs_eq_ofRat {x : Double} {q : Rat} (h : x.toRat? = some q) : x.abs = ofRat |q| false := by
  rw [← abs_ofRat q x.signBit, ofRat_of_toRat? h]

end SlideMerge.Numeric.Double

namespace SlideMerge.Format

open Numeric Text

/-! ## Numbers in the range of doubles -/

/-- A finite number that a finite double is near to. -/
def Number.InRange : Number → Prop
  | logical _ => True
  | integer n => n.natAbs < Double.overflowLimit
  | real x => x.toRat?.isSome

/-- The magnitude of the number divided by `1000^k`. -/
def Number.scaledMagnitude (k : Nat) (value : Number) : Except NumberFault Double :=
  (if k = 0 then .ok value else value.divThousands k) >>= Number.magnitude

section Scaled

variable {n : Int} {x : Double} {q : Rat} {k : Nat}

theorem doubleOfInt_eq (small : n.natAbs < Double.overflowLimit) :
    Number.doubleOfInt n = .ok (Double.ofRat n false) := by
  have finite := (Double.isSome_toRat?_ofRat n false).2 (Double.abs_intCast_lt_iff.2 small)
  rw [Number.doubleOfInt, Double.ofInt?_eq finite]

/-- **An integer is divided and rounded once.** -/
theorem scaledMagnitude_integer (small : |(n : Rat) / 1000 ^ k| < Double.overflowLimit) :
    (Number.integer n).scaledMagnitude k = .ok (Double.ofRat |(n : Rat) / 1000 ^ k| false) := by
  rw [Number.scaledMagnitude]
  by_cases whole : k = 0
  · rw [if_pos whole]
    rw [whole, pow_zero, div_one] at small ⊢
    have small : n.natAbs < Double.overflowLimit := Double.abs_intCast_lt_iff.1 small
    show Number.doubleOfInt n.natAbs = _
    rw [doubleOfInt_eq (n := n.natAbs) small, Int.cast_natCast, Nat.cast_natAbs, Int.cast_abs]
  · have finite := (Double.isSome_toRat?_ofRat (n / 1000 ^ k) false).2 small
    rw [if_neg whole, ← Double.abs_ofRat _ false, Number.divThousands, Number.intDivThousands]
    generalize Double.ofRat (n / 1000 ^ k) false = y at *
    cases y with
    | infinite => cases finite
    | nan => rfl
    | finite => rfl

theorem toRat?_thousand_pow :
    ∀ k ≤ 7, (Double.ofRat (1000 ^ k) false).toRat? = some (1000 ^ k) := by
  decide +kernel

/-- **A double is divided by the double nearest to the power of a thousand,** which is the power
itself up to the seventh. -/
theorem scaledMagnitude_real (h : x.toRat? = some q) (few : k < 103) :
    ∃ r : Rat, 1 ≤ r ∧ (k ≤ 7 → r = 1000 ^ k) ∧
      (Number.real x).scaledMagnitude k = .ok (Double.ofRat |q / r| false) := by
  by_cases whole : k = 0
  · refine ⟨1, le_rfl, fun _ => by rw [whole, pow_zero], ?_⟩
    rw [Number.scaledMagnitude, if_pos whole, div_one, ← Double.abs_eq_ofRat h]
    rfl
  · obtain ⟨divisor, m, nearest, value, zero⟩ := Double.exists_ofInt?_natCast (thousand_pow_lt few)
    have positive : m ≠ 0 := by
      rw [Ne, zero]
      exact (Nat.pow_pos (by decide)).ne'
    refine ⟨m, by exact_mod_cast Nat.one_le_iff_ne_zero.2 positive, ?_, ?_⟩
    · intro exact
      have same := (Double.toRat?_ofInt?_iff nearest value).2
        ⟨_, by push_cast [Nat.pow_eq]; exact toRat?_thousand_pow k exact⟩
      rw [same, Nat.pow_eq]
      push_cast
      rfl
    · have converted : Number.doubleOfInt (Nat.pow 1000 k) = .ok divisor := by
        rw [Number.doubleOfInt, nearest]
      rw [Number.scaledMagnitude, if_neg whole, Number.divThousands, converted,
        ← Double.abs_ofRat _ x.signBit]
      simp only [bind, Except.bind, Number.magnitude, Double.divPos, h, value]

/-- A thousand to the power of 103 is no double, so nothing is divided by it. -/
theorem scaledMagnitude_eq_error (x : Double) (many : 103 ≤ k) :
    (Number.real x).scaledMagnitude k = .error .integerTooLarge := by
  have large : Double.overflowLimit ≤ ((Nat.pow 1000 k : Nat) : Int).natAbs := by
    have first : Double.overflowLimit ≤ Nat.pow 1000 103 := by decide +kernel
    rw [Int.natAbs_natCast]
    exact first.trans (Nat.pow_le_pow_right (by decide) many)
  have unconverted : Number.doubleOfInt (Nat.pow 1000 k) = .error .integerTooLarge :=
    magnitude_integer_eq_error (n := (Nat.pow 1000 k : Nat)) large
  rw [Number.scaledMagnitude, if_neg (by omega), Number.divThousands, unconverted]
  rfl

theorem abs_div_lt {r : Rat} (one : 1 ≤ r) (small : |q| < Double.overflowLimit) :
    |q / r| < Double.overflowLimit := by
  rw [abs_div, abs_of_pos (zero_lt_one.trans_le one)]
  exact (div_le_self (abs_nonneg q) one).trans_lt small

end Scaled

/-- **The numbers in range stay in range,** unless a double is divided by more than a double can
be. -/
theorem exists_scaledMagnitude {value : Number} (h : value.InRange) {k : Nat}
    (few : ¬ (value.isReal ∧ 103 ≤ k)) :
    ∃ (x : Double) (q : Rat), value.scaledMagnitude k = .ok x ∧ x.toRat? = some q := by
  have rounded {q : Rat} (small : |q| < Double.overflowLimit) :
      ∃ r, (Double.ofRat |q| false).toRat? = some r := by
    rw [← abs_abs] at small
    exact Option.isSome_iff_exists.1 ((Double.isSome_toRat?_ofRat |q| false).2 small)
  have ofInt {n : Int} (small : n.natAbs < Double.overflowLimit) :
      ∃ (x : Double) (q : Rat), (Number.integer n).scaledMagnitude k = .ok x ∧
        x.toRat? = some q := by
    have quotient := abs_div_lt (one_le_pow₀ (n := k) (by norm_num : (1 : Rat) ≤ 1000))
      (Double.abs_intCast_lt_iff.2 small)
    obtain ⟨r, hr⟩ := rounded quotient
    exact ⟨_, r, scaledMagnitude_integer quotient, hr⟩
  cases value with
  | logical b =>
    have same : (Number.logical b).scaledMagnitude k =
        (Number.integer b.toInt).scaledMagnitude k := by
      rw [Number.scaledMagnitude, Number.scaledMagnitude]
      split_ifs <;> cases b <;> rfl
    have bit : b.toInt.natAbs ≤ 1 := by cases b <;> decide
    rw [same]
    exact ofInt (bit.trans_lt (thousand_pow_lt (k := 0) (by decide)))
  | integer n => exact ofInt h
  | real x =>
    obtain ⟨q, hq⟩ := Option.isSome_iff_exists.1 h
    obtain ⟨r, one, -, found⟩ :=
      scaledMagnitude_real hq (k := k) (by simpa [Number.isReal] using few)
    obtain ⟨s, hs⟩ := rounded (abs_div_lt one (Double.abs_lt_overflowLimit_of_toRat? hq))
    exact ⟨_, s, found, hs⟩

/-! ## Integers that are stored as doubles -/

section Stored

variable {n : Int} {x : Double} (h : x.toRat? = some (n : Rat))

include h

/-- **An integer and its double have the same quotients** as long as the divisor is exact. -/
theorem scaledMagnitude_eq_real {k : Nat} (few : k ≤ 7) :
    (Number.integer n).scaledMagnitude k = (Number.real x).scaledMagnitude k := by
  obtain ⟨r, one, exact, found⟩ := scaledMagnitude_real h (k := k) (by omega)
  have small := abs_div_lt one (Double.abs_lt_overflowLimit_of_toRat? h)
  rw [exact few] at small found
  rw [scaledMagnitude_integer small, found]

/-- **The hundredfold of a double is exact** if it is an integer up to `2^53`. -/
theorem toRat?_timesHundred (small : 100 * n.natAbs ≤ 2 ^ 53) :
    ∃ y : Double, (Number.real x).timesHundred = .real y ∧
      y.toRat? = some ((100 * n : Int) : Rat) := by
  have hundred : (Double.ofRat 100 false).toRat? = some 100 := by decide +kernel
  have bound : (100 * n).natAbs ≤ 2 ^ 53 := by rwa [Int.natAbs_mul]
  obtain ⟨y, exact⟩ := (Double.exists_toRat?_natAbs (100 * n)).1 (Double.exists_toRat?_of_le bound)
  refine ⟨_, rfl, ?_⟩
  simp only [Double.mul, h, hundred]
  have product : (n : Rat) * 100 = ((100 * n : Int) : Rat) := by
    push_cast
    ring
  rw [product]
  exact Double.toRat?_ofRat_of_toRat? exact _

end Stored

end SlideMerge.Format
