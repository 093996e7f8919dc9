import Criteria.Proofs.Number.DecimalValue
import Criteria.Proofs.Number.Rounding
import Criteria.Proofs.Number.WholeDouble

/-!
# Decimals as floating-point numbers

A decimal becomes a floating-point number of its sign that is a few roundings away from it: the
whole part and the places are rounded and added, scaled to an integer, and divided again.
-/
namespace Criteria.Number.Decimal

open Double

theorem near_natCast {n : ℕ} (hn : n < 2 ^ 96) : Near 1 (rounded n) n := by
  rcases Nat.eq_zero_or_pos n with rfl | hpos
  · rw [Nat.cast_zero, rounded_zero]
    exact .refl 1 le_rfl
  · have hlow : (1 : ℚ) ≤ n := by exact_mod_cast hpos
    have hhigh : (n : ℚ) < 2 ^ 96 := by exact_mod_cast hn
    refine (Near.refl 0 (Nat.cast_nonneg n)).rounded (Nat.zero_le _) ?_ ?_
    · exact le_trans (by norm_num) hlow
    · exact hhigh.le.trans (by norm_num)

/-- All powers of ten that scale a decimal are computed with one rounding. -/
theorem near_tenPower {n : ℕ} (hn : n ≤ 28) : Near 1 (tenPower n) (10 ^ n) := by
  have hall : ∀ n < 29, tenPower n * kept ^ 1 ≤ 10 ^ n ∧ 10 ^ n * kept ^ 1 ≤ tenPower n := by
    decide +kernel
  exact ⟨(hall n (Nat.lt_succ_of_le hn)).1, (hall n (Nat.lt_succ_of_le hn)).2⟩

/-- An integer that is a few roundings away is found again if it is small, and otherwise lies nearer
than a half. -/
theorem near_roundHalfUp {y : ℚ} {m : ℕ} (h : Near 6 y m) : Near 29 (roundHalfUp y) m := by
  have hm : (0 : ℚ) ≤ m := Nat.cast_nonneg m
  have hy : 0 ≤ y := (mul_nonneg hm (kept_pow_pos 6).le).trans h.right
  obtain ⟨hbelow, habove⟩ := abs_le.mp (h.abs_sub_le hy hm (by norm_num))
  have hfloor : ((y + 1 / 2).floor : ℚ) ≤ y + 1 / 2 := Int.floor_le (y + 1 / 2)
  have hfloor' : y + 1 / 2 < (y + 1 / 2).floor + 1 := Int.lt_floor_add_one (y + 1 / 2)
  rw [roundHalfUp]
  rcases lt_or_ge m (2 ^ 48) with hlt | hge
  · have hlt' : (m : ℚ) < 2 ^ 48 := by exact_mod_cast hlt
    have heq : (y + 1 / 2).floor = (m : ℤ) := by
      have hlow : ((y + 1 / 2).floor : ℚ) < (m : ℤ) + 1 := by push_cast at *; linarith
      have hhigh : ((m : ℤ) : ℚ) < (y + 1 / 2).floor + 1 := by push_cast at *; linarith
      have hlow' : (y + 1 / 2).floor < (m : ℤ) + 1 := by exact_mod_cast hlow
      have hhigh' : (m : ℤ) < (y + 1 / 2).floor + 1 := by exact_mod_cast hhigh
      omega
    rw [heq, Int.cast_natCast]
    exact .refl 29 hm
  · have hge' : (2 : ℚ) ^ 48 ≤ m := by exact_mod_cast hge
    refine Near.of_abs_sub_le (k := 28) (by norm_num) hm (abs_le.mpr ⟨?_, ?_⟩)
    · push_cast at *
      linarith
    · push_cast at *
      linarith

/-- The share of the places in a decimal, after their division. -/
theorem near_fraction {r n : ℕ} (hr : 0 < r) (hn : n ≤ 28) (hlt : r < 10 ^ n) :
    Near 3 (rounded (rounded (r : ℕ) / rounded (10 ^ n : ℕ))) (r / 10 ^ n) := by
  have hunit : 10 ^ n ≤ 10 ^ 28 := Nat.pow_le_pow_right (by decide) hn
  have hr' : (1 : ℚ) ≤ r := by exact_mod_cast hr
  have hlt' : (r : ℚ) ≤ 10 ^ n := by exact_mod_cast hlt.le
  have hunit' : (10 : ℚ) ^ n ≤ 10 ^ 28 := by exact_mod_cast hunit
  have hpow : (0 : ℚ) < 10 ^ n := by positivity
  have hplaces : Near 1 (rounded (r : ℕ)) r := near_natCast (by omega)
  have hscale : Near 1 (rounded (10 ^ n : ℕ)) (10 ^ n) := by
    have h : Near 1 (rounded (10 ^ n : ℕ)) ((10 ^ n : ℕ) : ℚ) := near_natCast (by omega)
    rwa [Nat.cast_pow] at h ⊢
  have hpos := zero_lt_one.trans_le hr'
  refine (hplaces.div hscale (hplaces.pos hpos).le hpos.le (hscale.pos hpow) hpow).rounded
    (by norm_num) ?_ ?_
  · rw [le_div_iff₀ hpow]
    linarith
  · rw [div_le_iff₀ hpow]
    linarith

section

variable {d : Decimal}

/-- The whole part and the places of a decimal make it up. -/
theorem size_eq_add (d : Decimal) : d.size = (d.mantissa / 10 ^ d.scale : ℕ) +
    ((d.mantissa % 10 ^ d.scale : ℕ) : ℚ) / 10 ^ d.scale := by
  have hsum : (10 : ℚ) ^ d.scale * (d.mantissa / 10 ^ d.scale : ℕ) +
      (d.mantissa % 10 ^ d.scale : ℕ) = d.mantissa := by
    exact_mod_cast Nat.div_add_mod d.mantissa (10 ^ d.scale)
  rw [size, ← hsum, add_div, mul_div_cancel_left₀ _ (by positivity)]

/-- The mantissa is found again, but for roundings, once the sum of the whole part and the places is
scaled. -/
theorem near_scaledSum {x : ℚ} (hd : 0 < d.mantissa) (h : Near 3 x d.size) :
    Near 29 (roundHalfUp (rounded (rounded x * tenPower d.scale))) d.mantissa := by
  have hunit := near_tenPower d.scale_le
  have hscale : d.size * 10 ^ d.scale = d.mantissa := div_mul_cancel₀ _ (by positivity)
  have hmantissa : (1 : ℚ) ≤ d.mantissa := by exact_mod_cast hd
  have hsize := size_pos hd
  have hsum := h.rounded (by norm_num) (le_trans (by norm_num) (le_size hd))
    (d.size_le_ten_pow.trans (by norm_num))
  have hproduct := hsum.mul hunit (hsum.pos hsize).le hsize.le (hunit.pos (by positivity)).le
    (by positivity)
  rw [hscale] at hproduct
  exact near_roundHalfUp (hproduct.rounded (by norm_num) (le_trans (by norm_num) hmantissa)
    (d.mantissa_cast_lt.le.trans (by norm_num)))

/-- The number that a decimal is rounded to at the end of its conversion. -/
theorem exists_toDouble_eq_nearest (hd : 0 < d.mantissa) :
    ∃ x, d.toDouble = Double.nearest d.negative x ∧ Near 30 x d.size := by
  have hpow : (0 : ℚ) < 10 ^ d.scale := by positivity
  have hwhole : Near 1 (rounded (d.mantissa / 10 ^ d.scale : ℕ)) (d.mantissa / 10 ^ d.scale : ℕ) :=
    near_natCast ((Nat.div_le_self _ _).trans_lt d.mantissa_lt)
  have hwhole_nonneg := hwhole.nonneg (Nat.cast_nonneg _)
  rw [toDouble]
  simp only [Nat.pow_eq]
  rcases Nat.eq_zero_or_pos (d.mantissa % 10 ^ d.scale) with hplaces | hplaces
  · have hfraction (unit : ℚ) : rounded (rounded ((0 : ℕ) : ℚ) / unit) = 0 := by
      rw [Nat.cast_zero, rounded_zero, zero_div, rounded_zero]
    rw [hplaces, if_pos (hfraction _)]
    refine ⟨_, rfl, ?_⟩
    rw [d.size_eq_add, hplaces, Nat.cast_zero, zero_div, add_zero]
    exact hwhole.mono (by decide) hwhole_nonneg (Nat.cast_nonneg _)
  · have hfraction := near_fraction hplaces d.scale_le (Nat.mod_lt _ (Nat.pow_pos (by decide)))
    have hfraction_pos := hfraction.pos (div_pos (by exact_mod_cast hplaces) hpow)
    have hsum := (hwhole.mono (by decide : 1 ≤ 3) hwhole_nonneg (Nat.cast_nonneg _)).add hfraction
    rw [← d.size_eq_add] at hsum
    have hscaled := near_scaledSum hd hsum
    have hunit := near_tenPower d.scale_le
    rw [if_neg hfraction_pos.ne']
    exact ⟨_, rfl, hscaled.div hunit (hscaled.nonneg (Nat.cast_nonneg _)) (Nat.cast_nonneg _)
      (hunit.pos hpow) hpow⟩

/-- A decimal other than zero becomes a number of its sign, 31 roundings away at most. -/
theorem exists_toDouble (hd : 0 < d.mantissa) :
    ∃ code h, d.toDouble = .signed d.negative code h ∧ Near 31 (magnitude code) d.size := by
  obtain ⟨x, hx, hnear⟩ := exists_toDouble_eq_nearest hd
  exact ⟨_, _, hx, hnear.rounded (by norm_num) (le_trans (by norm_num) (le_size hd))
    (d.size_le_ten_pow.trans (by norm_num))⟩

end

end Criteria.Number.Decimal
