import Criteria.Number.DecimalDouble
import Mathlib.Algebra.Field.Rat

/-!
# Whole numbers as floating-point numbers

A whole number below `2 ^ 53` fits into the significand of a floating-point number. So a decimal
with such a value, whatever its scale, becomes a floating-point number of the same value.
-/
namespace Criteria.Number

namespace Double

/-- The power of two that brings a whole number to 53 binary digits. -/
def shift (k : Nat) : Nat := 52 - Nat.log2 k

variable {k : Nat}

theorem shift_le (k : Nat) : shift k ≤ 52 := Nat.sub_le ..

theorem log2_add_shift (hk : 0 < k) (hlt : k < 2 ^ 53) : Nat.log2 k + shift k = 52 := by
  have hlog : Nat.log2 k < 53 := (Nat.log2_lt (Nat.ne_of_gt hk)).mpr hlt
  rw [shift]
  omega

/-- The shifted number has 53 binary digits. -/
theorem shifted_bounds (hk : 0 < k) (hlt : k < 2 ^ 53) :
    2 ^ 52 ≤ k * 2 ^ shift k ∧ k * 2 ^ shift k < 2 ^ 53 := by
  have hpow : 0 < 2 ^ shift k := Nat.pow_pos (by decide)
  constructor
  · calc 2 ^ 52 = 2 ^ Nat.log2 k * 2 ^ shift k := by rw [← Nat.pow_add, log2_add_shift hk hlt]
      _ ≤ k * 2 ^ shift k := Nat.mul_le_mul_right _ (Nat.log2_self_le (Nat.ne_of_gt hk))
  · calc k * 2 ^ shift k < 2 ^ (Nat.log2 k + 1) * 2 ^ shift k :=
          Nat.mul_lt_mul_of_pos_right Nat.lt_log2_self hpow
      _ = 2 ^ 53 := by rw [← Nat.pow_add, Nat.add_right_comm, log2_add_shift hk hlt]

theorem powerFor_one (hk : 0 < k) (hlt : k < 2 ^ 53) : powerFor k 1 = -(shift k : Int) := by
  have hguess : (Nat.log2 k : Int) - Nat.log2 1 - 52 = -(shift k : Int) := by
    have hlog := log2_add_shift hk hlt
    have hone : Nat.log2 1 = 0 := by decide
    omega
  have hle := (shifted_bounds hk hlt).1
  have hbound := shift_le k
  rw [powerFor, hguess]
  simp only [Int.natAbs_neg, Int.natAbs_natCast, Nat.pow_eq, Nat.one_mul]
  have hfits : ¬ (if -(shift k : Int) < 0 then k * 2 ^ shift k < 2 ^ 52
      else k < 2 ^ shift k * 2 ^ 52) := by
    split
    · exact Nat.not_lt_of_le hle
    · next hneg =>
      have hzero : shift k = 0 := by omega
      rw [hzero] at hle ⊢
      omega
  rw [if_neg hfits]
  omega

theorem divNearest_one (n : Nat) : divNearest n 1 = n := by
  simp [divNearest, Nat.mod_one]

theorem codeOf_natCast (hk : 0 < k) (hlt : k < 2 ^ 53) :
    codeOf (k : Rat) = (1074 - shift k) * 2 ^ 52 + k * 2 ^ shift k := by
  have hbound := shift_le k
  have hbounds := shifted_bounds hk hlt
  have hplace : (-(shift k : Int) + 1074).toNat = 1074 - shift k := by omega
  have hdigits : (if -(shift k : Int) < 0 then divNearest (k * 2 ^ shift k) 1
      else divNearest k (1 * 2 ^ shift k)) = k * 2 ^ shift k := by
    split
    · exact divNearest_one _
    · next hneg =>
      have hzero : shift k = 0 := by omega
      rw [hzero]
      exact (divNearest_one k).trans (Nat.mul_one k).symm
  rw [codeOf]
  simp only [Rat.num_natCast, Int.natAbs_natCast, Rat.den_natCast, powerFor_one hk hlt,
    Int.natAbs_neg, Nat.pow_eq, hdigits, hplace]
  rw [if_neg (Nat.ne_of_gt hk), infinityCode, Nat.pow_eq]
  omega

theorem significand_codeOf (hk : 0 < k) (hlt : k < 2 ^ 53) :
    significand (codeOf (k : Rat)) = k * 2 ^ shift k := by
  have hbound := shift_le k
  have hbounds := shifted_bounds hk hlt
  rw [significand, codeOf_natCast hk hlt, Nat.pow_eq, if_neg (by omega)]
  omega

theorem power_codeOf (hk : 0 < k) (hlt : k < 2 ^ 53) :
    power (codeOf (k : Rat)) = -(shift k : Int) := by
  have hbound := shift_le k
  have hbounds := shifted_bounds hk hlt
  rw [power, codeOf_natCast hk hlt, Nat.pow_eq]
  omega

theorem magnitude_codeOf (hk : 0 < k) (hlt : k < 2 ^ 53) : magnitude (codeOf (k : Rat)) = k := by
  have hzpow : Rat.zpow 2 (-(shift k : Int)) = ((2 : Rat) ^ shift k)⁻¹ := by
    show (2 : Rat) ^ (-(shift k : Int)) = _
    rw [Rat.zpow_neg, Rat.zpow_natCast]
  rw [magnitude, significand_codeOf hk hlt, power_codeOf hk hlt, hzpow, Nat.cast_mul, Nat.cast_pow]
  exact mul_inv_cancel_right₀ (pow_ne_zero _ (by decide)) _

end Double

namespace Decimal

open Double

variable {k : Nat}

theorem rounded_zero : rounded 0 = 0 := by decide +kernel

theorem rounded_natCast (hlt : k < 2 ^ 53) : rounded (k : Rat) = k := by
  rcases Nat.eq_zero_or_pos k with rfl | hk
  · exact rounded_zero
  · exact magnitude_codeOf hk hlt

theorem toDouble_whole {d : Decimal} (hd : d.mantissa = k * 10 ^ d.scale) (hlt : k < 2 ^ 53) :
    d.toDouble = Double.nearest d.negative k := by
  have hunit : 0 < 10 ^ d.scale := Nat.pow_pos (by decide)
  have hwhole : d.mantissa / Nat.pow 10 d.scale = k := by
    rw [hd, Nat.pow_eq, Nat.mul_div_cancel _ hunit]
  have hplaces : d.mantissa % Nat.pow 10 d.scale = 0 := by rw [hd, Nat.pow_eq, Nat.mul_mod_left]
  have hfraction (unit : Rat) : rounded (rounded ((0 : Nat) : Rat) / unit) = 0 := by
    rw [Nat.cast_zero, rounded_zero, zero_div, rounded_zero]
  rw [toDouble]
  simp only [hwhole, hplaces]
  rw [if_pos (hfraction _), rounded_natCast hlt]

theorem absorbFives_two_pow (n k : Nat) (e : Int) :
    absorbFives n (k * 2 ^ n) e = (k, e + n) := by
  induction n generalizing e with
  | zero => simp [absorbFives]
  | succ n ih =>
    have heven : k * 2 ^ (n + 1) = 2 * (k * 2 ^ n) := by rw [Nat.pow_succ]; ac_rfl
    rw [absorbFives, heven, if_pos (Nat.mul_mod_right ..),
      Nat.mul_div_cancel_left _ (by decide), ih]
    congr 1
    omega

theorem ofPower_zero (negative : Bool) (k : Nat) : ofPower negative k 0 = make? negative k 0 := rfl

end Decimal

end Criteria.Number
