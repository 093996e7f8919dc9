import Criteria.Number.Decimal
import Mathlib

/-!
# Values of decimals

The value of a decimal is its distance from zero with its sign, and decimals are in the order of
their values, whatever their scales.
-/
namespace Criteria.Number.Decimal

/-- The distance from zero. -/
def size (d : Decimal) : ℚ := d.mantissa / 10 ^ d.scale

variable (d : Decimal)

theorem toRat_eq : d.toRat = (if d.negative then -1 else 1) * d.size := by
  rw [toRat, signed, size, Nat.pow_eq]
  split <;> push_cast <;> ring

theorem size_nonneg : 0 ≤ d.size := by
  rw [size]
  positivity

theorem abs_toRat : |d.toRat| = d.size := by
  rw [toRat_eq, abs_mul, abs_of_nonneg d.size_nonneg]
  split
  · rw [abs_neg, abs_one, one_mul]
  · rw [abs_one, one_mul]

/-- Decimals are in the order of their values. -/
theorem order_eq_compare (a b : Decimal) : a.order b = compare a.toRat b.toRat := by
  have hscale (d : Decimal) : ((d.signed * Int.pow 10 (28 - d.scale) : ℤ) : ℚ) =
      d.toRat * 10 ^ 28 := by
    have hpow : (10 : ℚ) ^ 28 = 10 ^ (28 - d.scale) * 10 ^ d.scale := by
      rw [← pow_add, Nat.sub_add_cancel d.scale_le]
    rw [toRat, hpow, Nat.pow_eq, Int.pow_eq]
    push_cast
    field_simp
  rw [order, ← cmp_eq_compare, ← cmp_eq_compare,
    ← (Int.cast_strictMono (R := ℚ)).cmp_map_eq, hscale, hscale, cmp_mul_pos_right (by norm_num)]

theorem toRat_ofInt64 (n : Int64) : (ofInt64 n).toRat = n.toInt := by
  have hsigned : (ofInt64 n).signed = n.toInt := by
    have hneg : n < 0 ↔ n.toInt < 0 := Int64.lt_iff_toInt_lt
    simp only [signed, ofInt64, decide_eq_true_eq, hneg]
    split <;> omega
  rw [toRat, hsigned]
  exact div_one _

theorem mantissa_cast_lt : (d.mantissa : ℚ) < 10 ^ 29 := by
  have h : d.mantissa < 10 ^ 29 := d.mantissa_lt.trans (by decide)
  exact_mod_cast h

theorem size_le_ten_pow : d.size ≤ 10 ^ 29 := by
  have hpow : (1 : ℚ) ≤ 10 ^ d.scale := one_le_pow₀ (by norm_num)
  exact (div_le_self (Nat.cast_nonneg _) hpow).trans d.mantissa_cast_lt.le

variable {d}

theorem size_pos (hd : 0 < d.mantissa) : 0 < d.size :=
  div_pos (by exact_mod_cast hd) (by positivity)

theorem le_size (hd : 0 < d.mantissa) : 1 / 10 ^ 28 ≤ d.size := by
  have hpow : (10 : ℚ) ^ d.scale ≤ 10 ^ 28 := by
    exact_mod_cast Nat.pow_le_pow_right (by decide) d.scale_le
  have hone : (1 : ℚ) ≤ d.mantissa := by exact_mod_cast hd
  exact div_le_div₀ (Nat.cast_nonneg _) hone (by positivity) hpow

end Criteria.Number.Decimal
