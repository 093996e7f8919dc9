import Criteria.Number.DecimalDouble
import Mathlib

/-!
# Rounding to floating-point numbers

A magnitude within the range of the powers is rounded to 53 binary digits, so that it changes by at
most one part in `2 ^ 53`. What several roundings do to products, sums and quotients is counted in
roundings.
-/
namespace Criteria.Number

namespace Double

/-- The nearest integer to a quotient is at most a half away. -/
theorem divNearest_spec (num : ℕ) {den : ℕ} (hden : 0 < den) :
    2 * (divNearest num den * den) ≤ 2 * num + den ∧
      2 * num ≤ 2 * (divNearest num den * den) + den := by
  have hnum : den * (num / den) + num % den = num := Nat.div_add_mod num den
  have hrest : num % den < den := Nat.mod_lt _ hden
  have hcomm : num / den * den = den * (num / den) := Nat.mul_comm _ _
  rw [divNearest]
  split
  · next h =>
    have hhalf : 2 * (num % den) ≤ den := by
      simp only [Bool.or_eq_true, Bool.and_eq_true, decide_eq_true_eq, beq_iff_eq] at h
      omega
    omega
  · next h =>
    have hhalf : den ≤ 2 * (num % den) := by
      simp only [Bool.or_eq_true, Bool.and_eq_true, decide_eq_true_eq, beq_iff_eq] at h
      omega
    rw [Nat.add_mul, Nat.one_mul]
    omega

theorem abs_divNearest_sub_le (num : ℕ) {den : ℕ} (hden : 0 < den) :
    |(divNearest num den : ℚ) - num / den| ≤ 1 / 2 := by
  obtain ⟨hle, hge⟩ := divNearest_spec num hden
  have hle' : 2 * ((divNearest num den : ℚ) * den) ≤ 2 * num + den := by exact_mod_cast hle
  have hge' : 2 * (num : ℚ) ≤ 2 * (divNearest num den * den) + den := by exact_mod_cast hge
  have hpos : (0 : ℚ) < den := by exact_mod_cast hden
  have hnum : (num : ℚ) = num / den * den := (div_mul_cancel₀ _ hpos.ne').symm
  rw [abs_le]
  constructor <;> nlinarith

/-- A quotient is between the powers of two that the lengths of its parts give. -/
theorem quotient_bounds {num den : ℕ} (hnum : 0 < num) (hden : 0 < den) :
    (2 : ℚ) ^ ((Nat.log2 num : ℤ) - Nat.log2 den - 1) ≤ num / den ∧
      (num / den : ℚ) < 2 ^ ((Nat.log2 num : ℤ) - Nat.log2 den + 1) := by
  have hpos : (0 : ℚ) < den := by exact_mod_cast hden
  have hlow : (2 : ℚ) ^ Nat.log2 num ≤ num := by exact_mod_cast Nat.log2_self_le hnum.ne'
  have hhigh : (num : ℚ) < 2 ^ (Nat.log2 num + 1) := by exact_mod_cast Nat.lt_log2_self
  have hlow' : (2 : ℚ) ^ Nat.log2 den ≤ den := by exact_mod_cast Nat.log2_self_le hden.ne'
  have hhigh' : (den : ℚ) < 2 ^ (Nat.log2 den + 1) := by exact_mod_cast Nat.lt_log2_self
  constructor
  · rw [le_div_iff₀ hpos]
    calc (2 : ℚ) ^ ((Nat.log2 num : ℤ) - Nat.log2 den - 1) * den
        ≤ 2 ^ ((Nat.log2 num : ℤ) - Nat.log2 den - 1) * 2 ^ (Nat.log2 den + 1) := by gcongr
      _ = 2 ^ Nat.log2 num := by
        rw [← zpow_natCast, ← zpow_natCast, ← zpow_add₀ two_ne_zero]
        congr 1
        push_cast
        ring
      _ ≤ num := hlow
  · rw [div_lt_iff₀ hpos]
    calc (num : ℚ) < 2 ^ (Nat.log2 num + 1) := hhigh
      _ = 2 ^ ((Nat.log2 num : ℤ) - Nat.log2 den + 1) * 2 ^ Nat.log2 den := by
        rw [← zpow_natCast, ← zpow_natCast, ← zpow_add₀ two_ne_zero]
        congr 1
        push_cast
        ring
      _ ≤ 2 ^ ((Nat.log2 num : ℤ) - Nat.log2 den + 1) * den := by gcongr

/-- A comparison with a power of two, without negative powers. -/
theorem lt_two_zpow_iff {num den : ℕ} (hden : 0 < den) (g : ℤ) :
    (if g < 0 then num * Nat.pow 2 g.natAbs < den * Nat.pow 2 52
      else num < den * Nat.pow 2 g.natAbs * Nat.pow 2 52) ↔ (num / den : ℚ) < 2 ^ (g + 52) := by
  have hpos : (0 : ℚ) < den := by exact_mod_cast hden
  rw [div_lt_iff₀ hpos, zpow_add₀ two_ne_zero]
  split
  · next hneg =>
    obtain ⟨n, rfl⟩ : ∃ n : ℕ, g = -n := ⟨g.natAbs, by omega⟩
    have hpow : (0 : ℚ) < 2 ^ n := by positivity
    rw [Int.natAbs_neg, Int.natAbs_natCast, zpow_neg, zpow_natCast, mul_assoc,
      inv_mul_eq_div, lt_div_iff₀ hpow, ← Nat.cast_lt (α := ℚ)]
    push_cast [Nat.pow_eq]
    rw [mul_comm (den : ℚ)]
  · next hneg =>
    obtain ⟨n, rfl⟩ : ∃ n : ℕ, g = n := ⟨g.natAbs, by omega⟩
    rw [Int.natAbs_natCast, zpow_natCast, ← Nat.cast_lt (α := ℚ)]
    push_cast [Nat.pow_eq]
    rw [mul_assoc, mul_comm (den : ℚ)]

/-- The power for a quotient: the quotient has at most 53 binary digits in front of it, and exactly
so many unless the least power is taken. -/
theorem powerFor_bounds {num den : ℕ} (hnum : 0 < num) (hden : 0 < den) :
    (num / den : ℚ) < 2 ^ (powerFor num den + 53) ∧ -1074 ≤ powerFor num den ∧
      (powerFor num den = -1074 ∨ (2 : ℚ) ^ (powerFor num den + 52) ≤ num / den) := by
  obtain ⟨hlow, hhigh⟩ := quotient_bounds hnum hden
  have hmono {a b : ℤ} (h : a ≤ b) : (2 : ℚ) ^ a ≤ 2 ^ b := zpow_le_zpow_right₀ one_le_two h
  rw [powerFor]
  simp only [lt_two_zpow_iff hden]
  generalize hg : (Nat.log2 num : ℤ) - Nat.log2 den - 52 = g
  rw [show (Nat.log2 num : ℤ) - Nat.log2 den - 1 = g + 51 by omega] at hlow
  rw [show (Nat.log2 num : ℤ) - Nat.log2 den + 1 = g + 53 by omega] at hhigh
  refine ⟨?_, le_max_left _ _, ?_⟩
  · split
    · next h => exact h.trans_le (hmono (by omega))
    · exact hhigh.trans_le (hmono (by omega))
  · split
    · by_cases hle : g - 1 ≤ -1074
      · exact .inl (max_eq_left hle)
      · exact .inr ((hmono (by omega)).trans hlow)
    · next h =>
      by_cases hle : g ≤ -1074
      · exact .inl (max_eq_left hle)
      · exact .inr ((hmono (by omega)).trans (not_lt.mp h))

theorem zpow_eq (n : ℤ) : Rat.zpow 2 n = (2 : ℚ) ^ n := rfl

/-- The magnitude of a code that is put together from a power and 53 binary digits. A carry goes
into the next power. -/
theorem magnitude_code {p : ℤ} (hp : -1074 ≤ p) {m : ℕ} (hlow : 2 ^ 52 ≤ m) (hhigh : m ≤ 2 ^ 53) :
    magnitude ((p + 1074).toNat * 2 ^ 52 + m) = m * 2 ^ p := by
  obtain ⟨t, rfl⟩ : ∃ t : ℕ, p = t - 1074 := ⟨(p + 1074).toNat, by omega⟩
  rw [show ((t : ℤ) - 1074 + 1074).toNat = t by omega, magnitude, zpow_eq]
  rcases hhigh.lt_or_eq with hlt | rfl
  · have hsignificand : significand (t * 2 ^ 52 + m) = m := by
      rw [significand, Nat.pow_eq, if_neg (by omega)]
      omega
    have hpower : power (t * 2 ^ 52 + m) = t - 1074 := by
      rw [power, Nat.pow_eq, if_neg (by omega)]
      omega
    rw [hsignificand, hpower]
  · have hsignificand : significand (t * 2 ^ 52 + 2 ^ 53) = 2 ^ 52 := by
      rw [significand, Nat.pow_eq, if_neg (by omega)]
      omega
    have hpower : power (t * 2 ^ 52 + 2 ^ 53) = t - 1074 + 1 := by
      rw [power, Nat.pow_eq, if_neg (by omega)]
      omega
    rw [hsignificand, hpower, zpow_add_one₀ two_ne_zero]
    push_cast
    ring

theorem natAbs_num_div_den {x : ℚ} (hx : 0 < x) : (x.num.natAbs : ℚ) / x.den = x := by
  have hnum : (x.num.natAbs : ℚ) = x.num := by
    rw [← Int.cast_natCast, Int.natAbs_of_nonneg (Rat.num_pos.mpr hx).le]
  rw [hnum, Rat.num_div_den]

/-- The digits of a magnitude, before they are put together with their power. -/
def digitsFor (x : ℚ) : ℕ :=
  if powerFor x.num.natAbs x.den < 0 then
    divNearest (x.num.natAbs * Nat.pow 2 (powerFor x.num.natAbs x.den).natAbs) x.den
  else divNearest x.num.natAbs (x.den * Nat.pow 2 (powerFor x.num.natAbs x.den).natAbs)

theorem abs_digitsFor_sub_le {x : ℚ} (hx : 0 < x) :
    |(digitsFor x : ℚ) - x / 2 ^ powerFor x.num.natAbs x.den| ≤ 1 / 2 := by
  have hquotient := natAbs_num_div_den hx
  rw [digitsFor]
  generalize powerFor x.num.natAbs x.den = p
  split
  · next hneg =>
    obtain ⟨n, rfl⟩ : ∃ n : ℕ, p = -n := ⟨p.natAbs, by omega⟩
    have h := abs_divNearest_sub_le (x.num.natAbs * 2 ^ n) x.den_pos
    rw [Nat.cast_mul, mul_div_right_comm, hquotient, Nat.cast_pow] at h
    rw [Int.natAbs_neg, Int.natAbs_natCast, zpow_neg, div_inv_eq_mul, zpow_natCast, Nat.pow_eq]
    exact h
  · next hneg =>
    obtain ⟨n, rfl⟩ : ∃ n : ℕ, p = n := ⟨p.natAbs, by omega⟩
    have h := abs_divNearest_sub_le x.num.natAbs (Nat.mul_pos x.den_pos (Nat.two_pow_pos n))
    rw [Nat.cast_mul, ← div_div, hquotient, Nat.cast_pow] at h
    rw [Int.natAbs_natCast, zpow_natCast, Nat.pow_eq]
    exact h

theorem codeOf_eq {x : ℚ} (hx : 0 < x) :
    codeOf x = min ((powerFor x.num.natAbs x.den + 1074).toNat * 2 ^ 52 + digitsFor x)
      infinityCode := by
  have hnum : x.num.natAbs ≠ 0 := Int.natAbs_ne_zero.mpr (Rat.num_pos.mpr hx).ne'
  rw [codeOf]
  simp only
  rw [if_neg hnum]
  rfl

/-- A magnitude in the range of the powers and what its code is put together from. -/
theorem digitsFor_bounds {x : ℚ} (hlow : (2 : ℚ) ^ (-1022 : ℤ) ≤ x) (hhigh : x < 2 ^ (1023 : ℤ)) :
    ∃ p : ℤ, p = powerFor x.num.natAbs x.den ∧ -1074 ≤ p ∧ p ≤ 970 ∧
      2 ^ 52 ≤ digitsFor x ∧ digitsFor x ≤ 2 ^ 53 ∧ (2 : ℚ) ^ (p + 52) ≤ x := by
  have hx : 0 < x := lt_of_lt_of_le (by positivity) hlow
  have hnum : 0 < x.num.natAbs := Int.natAbs_pos.mpr (Rat.num_pos.mpr hx).ne'
  have hquotient := natAbs_num_div_den hx
  obtain ⟨hupper, hleast, hlower⟩ := powerFor_bounds hnum x.den_pos
  have hdigits := abs_digitsFor_sub_le hx
  rw [hquotient] at hupper hlower
  generalize powerFor x.num.natAbs x.den = p at *
  have hlower' : (2 : ℚ) ^ (p + 52) ≤ x := by
    rcases hlower with rfl | hlower
    · exact hlow
    · exact hlower
  have hpower : (0 : ℚ) < 2 ^ p := by positivity
  have hmost : p ≤ 970 := by
    have hlt : (2 : ℚ) ^ (p + 52) < 2 ^ (1023 : ℤ) := hlower'.trans_lt hhigh
    have := (zpow_lt_zpow_iff_right₀ one_lt_two).mp hlt
    omega
  rw [zpow_add₀ two_ne_zero] at hlower' hupper
  have hfloor : (2 : ℚ) ^ (52 : ℤ) ≤ x / 2 ^ p := by
    rw [le_div_iff₀ hpower, mul_comm]
    exact hlower'
  have hceil : x / 2 ^ p < (2 : ℚ) ^ (53 : ℤ) := by
    rw [div_lt_iff₀ hpower, mul_comm]
    exact hupper
  rw [abs_le] at hdigits
  -- The digits are an integer within a half of a number between these bounds.
  have hleast' : (2 : ℚ) ^ (52 : ℤ) < digitsFor x + 1 := by linarith
  have hmost' : (digitsFor x : ℚ) < 2 ^ (53 : ℤ) + 1 := by linarith
  refine ⟨p, rfl, hleast, hmost, ?_, ?_, ?_⟩
  · exact Nat.lt_succ_iff.mp (by exact_mod_cast hleast')
  · exact Nat.lt_succ_iff.mp (by exact_mod_cast hmost')
  · rw [zpow_add₀ two_ne_zero]
    exact hlower'

end Double

namespace Decimal

open Double

/-- Rounding changes a magnitude in the range of the powers by one part in `2 ^ 53` at most. -/
theorem abs_rounded_sub_le {x : ℚ} (hlow : (2 : ℚ) ^ (-1022 : ℤ) ≤ x)
    (hhigh : x < 2 ^ (1023 : ℤ)) : |rounded x - x| ≤ x / 2 ^ 53 := by
  have hx : 0 < x := lt_of_lt_of_le (by positivity) hlow
  obtain ⟨p, hp, hleast, hmost, hdlow, hdhigh, hxlow⟩ := digitsFor_bounds hlow hhigh
  have hcode : codeOf x = (p + 1074).toNat * 2 ^ 52 + digitsFor x := by
    rw [codeOf_eq hx, ← hp, infinityCode, Nat.pow_eq]
    omega
  have hpower : (0 : ℚ) < 2 ^ p := by positivity
  have hdigits := abs_digitsFor_sub_le hx
  rw [← hp] at hdigits
  calc |rounded x - x| = |(digitsFor x - x / 2 ^ p) * 2 ^ p| := by
        rw [rounded, hcode, magnitude_code hleast hdlow hdhigh, sub_mul,
          div_mul_cancel₀ _ hpower.ne']
    _ = |(digitsFor x : ℚ) - x / 2 ^ p| * 2 ^ p := by rw [abs_mul, abs_of_pos hpower]
    _ ≤ 1 / 2 * 2 ^ p := by gcongr
    _ = 2 ^ (p + 52) / 2 ^ 53 := by
        rw [zpow_add₀ two_ne_zero]
        norm_num
        ring
    _ ≤ x / 2 ^ 53 := by gcongr

end Decimal

/-- What a rounding leaves of a magnitude at least. -/
def kept : ℚ := 1 - 1 / 2 ^ 53

theorem kept_pos : 0 < kept := by norm_num [kept]

theorem kept_le_one : kept ≤ 1 := by norm_num [kept]

theorem kept_pow_pos (k : ℕ) : 0 < kept ^ k := pow_pos kept_pos k

/-- Many roundings together leave about as much as the sum of what they take. -/
theorem one_sub_le_kept_pow (k : ℕ) : 1 - k / 2 ^ 53 ≤ kept ^ k := by
  have h := one_add_mul_le_pow (a := -(1 / 2 ^ 53 : ℚ)) (by norm_num) k
  rw [← sub_eq_add_neg] at h
  calc (1 - k / 2 ^ 53 : ℚ) = 1 + k * -(1 / 2 ^ 53) := by ring
    _ ≤ kept ^ k := h

/-- They take about as much as they may together. -/
theorem one_add_mul_kept_pow_le (k : ℕ) : (1 + k / 2 ^ 53) * kept ^ k ≤ 1 := by
  have h := one_add_mul_le_pow (a := (1 / 2 ^ 53 : ℚ)) (by norm_num) k
  calc (1 + k / 2 ^ 53) * kept ^ k = (1 + k * (1 / 2 ^ 53)) * kept ^ k := by ring
    _ ≤ (1 + 1 / 2 ^ 53) ^ k * kept ^ k := mul_le_mul_of_nonneg_right h (kept_pow_pos k).le
    _ = ((1 + 1 / 2 ^ 53) * kept) ^ k := (mul_pow _ _ _).symm
    _ ≤ 1 := pow_le_one₀ (by norm_num [kept]) (by norm_num [kept])

/-- Magnitudes that are at most `k` roundings apart. -/
structure Near (k : ℕ) (a b : ℚ) : Prop where
  left : a * kept ^ k ≤ b
  right : b * kept ^ k ≤ a

namespace Near

variable {j k : ℕ} {a b c d : ℚ}

theorem refl (k : ℕ) (ha : 0 ≤ a) : Near k a a :=
  have h : a * kept ^ k ≤ a := mul_le_of_le_one_right ha (pow_le_one₀ kept_pos.le kept_le_one)
  ⟨h, h⟩

theorem trans (h : Near j a b) (h' : Near k b c) : Near (j + k) a c where
  left := by
    rw [pow_add, ← mul_assoc]
    exact (mul_le_mul_of_nonneg_right h.left (kept_pow_pos k).le).trans h'.left
  right := by
    rw [Nat.add_comm, pow_add, ← mul_assoc]
    exact (mul_le_mul_of_nonneg_right h'.right (kept_pow_pos j).le).trans h.right

theorem mono (h : Near j a b) (hjk : j ≤ k) (ha : 0 ≤ a) (hb : 0 ≤ b) : Near k a b := by
  have hpow : kept ^ k ≤ kept ^ j := pow_le_pow_of_le_one kept_pos.le kept_le_one hjk
  exact ⟨(mul_le_mul_of_nonneg_left hpow ha).trans h.left,
    (mul_le_mul_of_nonneg_left hpow hb).trans h.right⟩

theorem pos (h : Near k a b) (hb : 0 < b) : 0 < a :=
  (mul_pos hb (kept_pow_pos k)).trans_le h.right

theorem nonneg (h : Near k a b) (hb : 0 ≤ b) : 0 ≤ a :=
  (mul_nonneg hb (kept_pow_pos k).le).trans h.right

theorem mul (h : Near j a b) (h' : Near k c d) (ha : 0 ≤ a) (hb : 0 ≤ b) (hc : 0 ≤ c)
    (hd : 0 ≤ d) : Near (j + k) (a * c) (b * d) where
  left := by
    rw [pow_add, mul_mul_mul_comm]
    exact mul_le_mul h.left h'.left (mul_nonneg hc (kept_pow_pos k).le) hb
  right := by
    rw [pow_add, mul_mul_mul_comm]
    exact mul_le_mul h.right h'.right (mul_nonneg hd (kept_pow_pos k).le) ha

theorem inv (h : Near k a b) (ha : 0 < a) (hb : 0 < b) : Near k a⁻¹ b⁻¹ where
  left := by
    rw [inv_mul_le_iff₀ ha, ← div_eq_mul_inv, le_div_iff₀ hb, mul_comm]
    exact h.right
  right := by
    rw [inv_mul_le_iff₀ hb, ← div_eq_mul_inv, le_div_iff₀ ha, mul_comm]
    exact h.left

theorem div (h : Near j a b) (h' : Near k c d) (ha : 0 ≤ a) (hb : 0 ≤ b) (hc : 0 < c)
    (hd : 0 < d) : Near (j + k) (a / c) (b / d) := by
  rw [div_eq_mul_inv, div_eq_mul_inv]
  exact h.mul (h'.inv hc hd) ha hb (inv_pos.mpr hc).le (inv_pos.mpr hd).le

theorem add (h : Near k a b) (h' : Near k c d) : Near k (a + c) (b + d) where
  left := by
    rw [add_mul]
    exact add_le_add h.left h'.left
  right := by
    rw [add_mul]
    exact add_le_add h.right h'.right

/-- The distance of magnitudes that are few roundings apart. -/
theorem abs_sub_le (h : Near k a b) (ha : 0 ≤ a) (hb : 0 ≤ b) (hk : k ≤ 2 ^ 52) :
    |a - b| ≤ 2 * k / 2 ^ 53 * b := by
  have hk' : (k : ℚ) ≤ 2 ^ 52 := by exact_mod_cast hk
  have hpow := one_sub_le_kept_pow k
  have hleft : a * (1 - k / 2 ^ 53) ≤ b := (mul_le_mul_of_nonneg_left hpow ha).trans h.left
  have hright : b * (1 - k / 2 ^ 53) ≤ a := (mul_le_mul_of_nonneg_left hpow hb).trans h.right
  have hkb : 0 ≤ k * b := mul_nonneg (Nat.cast_nonneg k) hb
  rw [abs_le]
  constructor
  · linarith
  · have hdouble : a ≤ 2 * b := by nlinarith
    nlinarith [Nat.cast_nonneg (α := ℚ) k]

/-- Magnitudes whose distance is counted in parts of one of them. -/
theorem of_abs_sub_le (hk : k * (k + 1) ≤ 2 ^ 53) (hb : 0 ≤ b) (h : |a - b| ≤ k / 2 ^ 53 * b) :
    Near (k + 1) a b := by
  obtain ⟨hbelow, habove⟩ := abs_le.mp h
  have hpow := one_add_mul_kept_pow_le (k + 1)
  have hkept := (kept_pow_pos (k + 1)).le
  have hsmall : (k : ℚ) * (k + 1) ≤ 2 ^ 53 := by exact_mod_cast hk
  push_cast at hpow
  constructor
  · calc a * kept ^ (k + 1) ≤ b * (1 + (k + 1) / 2 ^ 53) * kept ^ (k + 1) := by
          gcongr
          linarith
      _ ≤ b := by
          rw [mul_assoc]
          exact mul_le_of_le_one_right hb hpow
  · have hleft : kept ^ (k + 1) ≤ 1 - k / 2 ^ 53 := by
      refine le_of_mul_le_mul_left (hpow.trans ?_) (by positivity : 0 < 1 + ((k : ℚ) + 1) / 2 ^ 53)
      linarith
    calc b * kept ^ (k + 1) ≤ b * (1 - k / 2 ^ 53) := mul_le_mul_of_nonneg_left hleft hb
      _ ≤ a := by linarith

end Near

theorem Decimal.near_rounded {x : ℚ} (hlow : (2 : ℚ) ^ (-1022 : ℤ) ≤ x)
    (hhigh : x < 2 ^ (1023 : ℤ)) : Near 1 (rounded x) x := by
  obtain ⟨hbelow, habove⟩ := abs_le.mp (abs_rounded_sub_le hlow hhigh)
  have hx : 0 < x := lt_of_lt_of_le (by positivity) hlow
  constructor <;> rw [pow_one, kept] <;> linarith

/-- What is near a value of moderate size is near it after one more rounding. -/
theorem Near.rounded {k : ℕ} {x y : ℚ} (h : Near k x y) (hk : k ≤ 2 ^ 52) (hlow : 1 / 10 ^ 30 ≤ y)
    (hhigh : y ≤ 10 ^ 60) : Near (k + 1) (Decimal.rounded x) y := by
  have hy : 0 < y := lt_of_lt_of_le (by positivity) hlow
  have hk' : (k : ℚ) ≤ 2 ^ 52 := by exact_mod_cast hk
  have hpow : 1 / 2 ≤ kept ^ k := le_trans (by linarith) (one_sub_le_kept_pow k)
  have hbelow : y / 2 ≤ x := by nlinarith [h.right]
  have habove : x ≤ 2 * y := by nlinarith [h.left, h.pos hy]
  rw [Nat.add_comm]
  refine (Decimal.near_rounded ?_ ?_).trans h
  · calc (2 : ℚ) ^ (-1022 : ℤ) ≤ 2 ^ (-101 : ℤ) := zpow_le_zpow_right₀ one_le_two (by decide)
      _ ≤ 1 / 10 ^ 30 / 2 := by norm_num
      _ ≤ y / 2 := div_le_div_of_nonneg_right hlow two_pos.le
      _ ≤ x := hbelow
  · calc x ≤ 2 * y := habove
      _ ≤ 2 * 10 ^ 60 := mul_le_mul_of_nonneg_left hhigh two_pos.le
      _ < 2 ^ (201 : ℤ) := by norm_num
      _ ≤ 2 ^ (1023 : ℤ) := zpow_le_zpow_right₀ one_le_two (by decide)

end Criteria.Number
