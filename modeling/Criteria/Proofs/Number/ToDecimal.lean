import Criteria.Proofs.Number.FromDecimal

/-!
# Floating-point numbers as decimals

Exactly the numbers below `2 ^ 96` have a decimal. It has the sign of the number, and but for what
lies behind the last place it is a few roundings away.
-/
namespace Criteria.Number

namespace Double

variable {code : ℕ}

theorem significand_lt (code : ℕ) : significand code < 2 ^ 53 := by
  rw [significand, Nat.pow_eq]
  split <;> omega

theorem significand_pos (h : 0 < code) : 0 < significand code := by
  rw [significand, Nat.pow_eq]
  split <;> omega

theorem le_significand (h : 2 ^ 52 ≤ code) : 2 ^ 52 ≤ significand code := by
  rw [significand, Nat.pow_eq]
  split <;> omega

theorem magnitude_nonneg (code : ℕ) : 0 ≤ magnitude code := by
  rw [magnitude, zpow_eq]
  positivity

theorem le_of_power_pos (h : 0 < power code) : 2 ^ 52 ≤ code := by
  rw [power, Nat.pow_eq] at h
  split at h <;> omega

/-- The codes of the magnitudes below `2 ^ 96`. -/
theorem magnitude_lt_iff : magnitude code < 2 ^ 96 ↔ code < 1119 * 2 ^ 52 := by
  rw [magnitude, zpow_eq, ← zpow_natCast]
  have hpower : (0 : ℚ) < 2 ^ power code := by positivity
  constructor
  · contrapose!
    intro h
    have hcode : 2 ^ 52 ≤ code := by omega
    have hle : (2 : ℚ) ^ (52 : ℤ) ≤ significand code := by exact_mod_cast le_significand hcode
    have hpow : 44 ≤ power code := by
      rw [power, Nat.pow_eq, if_neg (by omega)]
      omega
    calc (2 : ℚ) ^ ((96 : ℕ) : ℤ) = 2 ^ (52 : ℤ) * 2 ^ (44 : ℤ) := by norm_num
      _ ≤ significand code * 2 ^ power code :=
        mul_le_mul hle (zpow_le_zpow_right₀ one_le_two hpow) (by positivity) (Nat.cast_nonneg _)
  · intro h
    have hlt : (significand code : ℚ) < 2 ^ (53 : ℤ) := by exact_mod_cast significand_lt code
    have hpow : power code ≤ 43 := by
      rw [power, Nat.pow_eq]
      split <;> omega
    calc (significand code : ℚ) * 2 ^ power code
        < 2 ^ (53 : ℤ) * 2 ^ power code := mul_lt_mul_of_pos_right hlt hpower
      _ ≤ 2 ^ (53 : ℤ) * 2 ^ (43 : ℤ) :=
        mul_le_mul_of_nonneg_left (zpow_le_zpow_right₀ one_le_two hpow) (by positivity)
      _ = 2 ^ ((96 : ℕ) : ℤ) := by norm_num

/-- The numbers between `-2 ^ 96` and `2 ^ 96`. -/
theorem exists_toRat?_iff {negative : Bool} {h : code ≤ infinityCode} :
    (∃ r, (signed negative code h).toRat? = some r ∧ |r| < 2 ^ 96) ↔ code < 1119 * 2 ^ 52 := by
  have hvalue : |if negative then -magnitude code else magnitude code| = magnitude code := by
    have hnonneg := abs_of_nonneg (magnitude_nonneg code)
    split
    · rw [abs_neg, hnonneg]
    · exact hnonneg
  rw [toRat?]
  split
  · next hinfinite => simp [hinfinite, infinityCode]
  · simp [hvalue, magnitude_lt_iff]

end Double

namespace Decimal

open Double

/-- A mantissa scaled by a power of ten. -/
def scaled (m : ℕ) (e : ℤ) : ℚ := m * 10 ^ e

theorem scaled_succ (m : ℕ) (e : ℤ) : scaled m (e + 1) = 10 * scaled m e := by
  rw [scaled, scaled, zpow_add_one₀ (by norm_num)]
  ring

theorem scaled_mul (m k : ℕ) (e : ℤ) : scaled (m * k) e = k * scaled m e := by
  rw [scaled, scaled, Nat.cast_mul]
  ring

theorem scaled_nonneg (m : ℕ) (e : ℤ) : 0 ≤ scaled m e :=
  mul_nonneg (Nat.cast_nonneg m) (by positivity)

theorem scaled_neg (m scale : ℕ) : scaled m (-scale) = m / 10 ^ scale := by
  rw [scaled, zpow_neg, zpow_natCast, div_eq_mul_inv]

/-- What is left at least of a mantissa without room, after its last bit is lost. -/
def bitKept : ℚ := 1 - 5 / 2 ^ 96

/-- A scaled mantissa that has taken in `n` factors of five. -/
structure Absorbs (n m : ℕ) (e : ℤ) (r : ℕ × ℤ) : Prop where
  lt : r.1 < 2 ^ 96
  pos : 0 < r.1
  power_le : r.2 ≤ e + n
  le : scaled r.1 r.2 ≤ 5 ^ n * scaled m e
  ge : 5 ^ n * scaled m e * bitKept ^ n ≤ scaled r.1 r.2

namespace Absorbs

variable {n m : ℕ} {e : ℤ} {r s : ℕ × ℤ}

/-- A two is traded for a five, or else the last bit is lost. -/
theorem half (hpos : 0 < m) (hlt : m < 2 ^ 96) (h : m % 2 = 0 ∨ 2 ^ 96 ≤ m * 5) :
    Absorbs 1 m e (m / 2, e + 1) := by
  have htwice : 2 * ((m / 2 : ℕ) : ℚ) ≤ m := by exact_mod_cast Nat.mul_div_le m 2
  have hrest : (m : ℚ) * bitKept ≤ 2 * (m / 2 : ℕ) := by
    rw [bitKept]
    rcases h with heven | hwide
    · have hm : (m : ℚ) = 2 * (m / 2 : ℕ) := by
        exact_mod_cast (Nat.mul_div_cancel' (Nat.dvd_of_mod_eq_zero heven)).symm
      have hm' : (0 : ℚ) ≤ m := Nat.cast_nonneg m
      linarith
    · have hm : (m : ℚ) ≤ 2 * (m / 2 : ℕ) + 1 := by exact_mod_cast (by omega)
      have hwide' : (2 : ℚ) ^ 96 ≤ m * 5 := by exact_mod_cast hwide
      linarith
  have hscale : scaled (m / 2) (e + 1) = 10 ^ e * 5 * (2 * (m / 2 : ℕ)) := by
    rw [scaled_succ, scaled]
    ring
  have hpower : (0 : ℚ) < 10 ^ e * 5 := by positivity
  refine ⟨by omega, by omega, by simp, ?_, ?_⟩
  · calc scaled (m / 2) (e + 1) = 10 ^ e * 5 * (2 * (m / 2 : ℕ)) := hscale
      _ ≤ 10 ^ e * 5 * m := mul_le_mul_of_nonneg_left htwice hpower.le
      _ = 5 ^ 1 * scaled m e := by rw [scaled]; ring
  · calc 5 ^ 1 * scaled m e * bitKept ^ 1 = 10 ^ e * 5 * (m * bitKept) := by rw [scaled]; ring
      _ ≤ 10 ^ e * 5 * (2 * (m / 2 : ℕ)) := mul_le_mul_of_nonneg_left hrest hpower.le
      _ = scaled (m / 2) (e + 1) := hscale.symm

/-- A factor of five that there is room for. -/
theorem times (hpos : 0 < m) (hlt : m * 5 < 2 ^ 96) : Absorbs 1 m e (m * 5, e) := by
  have hscale : scaled (m * 5) e = 5 ^ 1 * scaled m e := by rw [scaled_mul, pow_one, Nat.cast_ofNat]
  refine ⟨hlt, by omega, by simp, hscale.le, ?_⟩
  rw [hscale, pow_one bitKept]
  exact mul_le_of_le_one_right (mul_nonneg (by norm_num) (scaled_nonneg m e))
    (by norm_num [bitKept])

theorem trans (h : Absorbs 1 m e r) (h' : Absorbs n r.1 r.2 s) : Absorbs (n + 1) m e s where
  lt := h'.lt
  pos := h'.pos
  power_le := by
    have h₁ := h.power_le
    have h₂ := h'.power_le
    push_cast at h₁ ⊢
    omega
  le := calc scaled s.1 s.2 ≤ 5 ^ n * scaled r.1 r.2 := h'.le
    _ ≤ 5 ^ n * (5 ^ 1 * scaled m e) := mul_le_mul_of_nonneg_left h.le (by positivity)
    _ = 5 ^ (n + 1) * scaled m e := by ring
  ge := calc 5 ^ (n + 1) * scaled m e * bitKept ^ (n + 1)
      = 5 ^ n * (5 ^ 1 * scaled m e * bitKept ^ 1) * bitKept ^ n := by ring
    _ ≤ 5 ^ n * scaled r.1 r.2 * bitKept ^ n :=
      mul_le_mul_of_nonneg_right (mul_le_mul_of_nonneg_left h.ge (by positivity))
        (pow_nonneg (by norm_num [bitKept]) n)
    _ ≤ scaled s.1 s.2 := h'.ge

/-- As few factors as there are lose less than one rounding. -/
theorem near (h : Absorbs n m e r) (hn : n ≤ 1074) :
    Near 1 (scaled r.1 r.2) (5 ^ n * scaled m e) := by
  have hvalue : 0 ≤ 5 ^ n * scaled m e := mul_nonneg (by positivity) (scaled_nonneg m e)
  have hbits : kept ≤ bitKept ^ n := by
    have hn' : (n : ℚ) ≤ 1074 := by exact_mod_cast hn
    have hpow := one_add_mul_le_pow (a := -(5 / 2 ^ 96 : ℚ)) (by norm_num) n
    rw [← sub_eq_add_neg] at hpow
    calc kept ≤ 1 + n * -(5 / 2 ^ 96) := by rw [kept]; linarith
      _ ≤ bitKept ^ n := hpow
  constructor <;> rw [pow_one]
  · exact (mul_le_of_le_one_right (scaled_nonneg _ _) kept_le_one).trans h.le
  · exact (mul_le_mul_of_nonneg_left hbits hvalue).trans h.ge

end Absorbs

theorem absorbs_absorbFives (n : ℕ) {m : ℕ} (e : ℤ) (hpos : 0 < m) (hlt : m < 2 ^ 96) :
    Absorbs n m e (absorbFives n m e) := by
  induction n generalizing m e with
  | zero => exact ⟨hlt, hpos, by simp [absorbFives], by simp [absorbFives], by simp [absorbFives]⟩
  | succ n ih =>
    rw [absorbFives, Nat.pow_eq]
    split
    · next heven =>
      have h := Absorbs.half (e := e) hpos hlt (.inl heven)
      exact h.trans (ih (e + 1) h.pos h.lt)
    · next hodd =>
      split
      · next hroom =>
        have h := Absorbs.times (e := e) hpos hroom
        exact h.trans (ih e h.pos h.lt)
      · next hwide =>
        have h := Absorbs.half (e := e) hpos hlt (.inr (not_lt.mp hwide))
        exact h.trans (ih (e + 1) h.pos h.lt)

/-- With as many factors of five as of ten, the number has to fit as a whole. -/
theorem divideFives_bind (negative : Bool) (n : ℕ) {m : ℕ} (hm : m < 2 ^ 96) :
    ((divideFives n m n).bind fun r => ofPower negative r.1 r.2) =
      make? negative (m * 2 ^ n) 0 := by
  induction n generalizing m with
  | zero =>
    rw [Nat.pow_zero, Nat.mul_one]
    rfl
  | succ n ih =>
    have hproduct : m * 2 ^ (n + 1) = m * 2 * 2 ^ n := by rw [Nat.pow_succ]; ac_rfl
    have hdouble : m * 2 ≤ m * 2 * 2 ^ n := Nat.le_mul_of_pos_right _ (Nat.two_pow_pos n)
    rw [divideFives]
    simp only [Nat.pow_eq]
    split
    · next hlt =>
      have hpower : ((n + 1 : ℕ) : ℤ) - 1 = n := by omega
      rw [hpower, ih (by omega), hproduct]
    · next hge =>
      have hwide : ¬(m * 2 ^ (n + 1) < Nat.pow 2 96 ∧ 0 ≤ 28) := by
        rw [hproduct, Nat.pow_eq]
        omega
      rw [if_pos (by omega), make?, dif_neg hwide]
      rfl

theorem abs_dropDigit_sub_le (m : ℕ) : |(dropDigit m : ℚ) - m / 10| ≤ 1 / 2 := by
  have hbounds : 10 * dropDigit m ≤ m + 5 ∧ m ≤ 10 * dropDigit m + 5 := by
    rw [dropDigit]
    split <;> omega
  have hle : 10 * (dropDigit m : ℚ) ≤ m + 5 := by exact_mod_cast hbounds.1
  have hge : (m : ℚ) ≤ 10 * dropDigit m + 5 := by exact_mod_cast hbounds.2
  rw [abs_le]
  constructor <;> linarith

theorem dropDigit_le (m : ℕ) : dropDigit m ≤ m := by
  rw [dropDigit]
  split <;> omega

/-- Digits that are rounded away one after the other change a mantissa by less than 5/9 of its last
place: a half, and a tenth of what the digits before have changed. -/
theorem abs_dropDigit_sub_le_of_near {m : ℕ} {x : ℚ} (h : |m - x| ≤ 5 / 9) :
    |dropDigit m - x / 10| ≤ 5 / 9 := by
  obtain ⟨hlow, hhigh⟩ := abs_le.mp h
  obtain ⟨hlow', hhigh'⟩ := abs_le.mp (abs_dropDigit_sub_le m)
  exact abs_le.mpr ⟨by linarith, by linarith⟩

section Places

variable {m n scale : ℕ} {x : ℚ}

theorem dropPlaces_le (m : ℕ) (h : scale ≤ n + 28) :
    (dropPlaces n m scale).1 ≤ m ∧ (dropPlaces n m scale).2 ≤ 28 := by
  induction n generalizing m scale with
  | zero => exact ⟨le_rfl, by simpa [dropPlaces] using h⟩
  | succ n ih =>
    rw [dropPlaces]
    split
    · exact ⟨Nat.zero_le m, Nat.zero_le 28⟩
    · have hless : scale - 1 ≤ n + 28 := by omega
      obtain ⟨hle, hscale⟩ := ih (dropDigit m) hless
      exact ⟨hle.trans (dropDigit_le m), hscale⟩

/-- A mantissa that is about one at least when its places are given up. -/
theorem dropPlaces_near (scale : ℕ) (hx : 24 / 25 ≤ x) (h : |m - x * 10 ^ n| ≤ 5 / 9) :
    ∃ k, dropPlaces n m scale = (k, scale - n) ∧ |k - x| ≤ 5 / 9 := by
  induction n generalizing m scale with
  | zero => exact ⟨m, rfl, by simpa using h⟩
  | succ n ih =>
    have hpow : (1 : ℚ) ≤ 10 ^ n := one_le_pow₀ (by norm_num)
    have hstep : x * 10 ^ (n + 1) / 10 = x * 10 ^ n := by rw [pow_succ]; ring
    have hdigits : 10 ≤ m := by
      have hlarge : (24 / 25 : ℚ) ≤ x * 10 ^ n := by nlinarith
      have hlow := (abs_le.mp h).1
      rw [pow_succ] at hlow
      have hm : (9 : ℚ) < m := by linarith
      exact_mod_cast hm
    rw [dropPlaces, if_neg (by omega)]
    have hnext := abs_dropDigit_sub_le_of_near h
    rw [hstep] at hnext
    obtain ⟨k, hk, hnear⟩ := ih (scale - 1) hnext
    exact ⟨k, by rw [hk, Nat.sub_sub, Nat.add_comm n], hnear⟩

theorem fitDigits_le (m scale : ℕ) : (fitDigits m scale).1 ≤ m ∧ (fitDigits m scale).2 ≤ scale := by
  induction scale generalizing m with
  | zero => exact ⟨le_rfl, le_rfl⟩
  | succ scale ih =>
    rw [fitDigits]
    split
    · obtain ⟨hle, hscale⟩ := ih (dropDigit m)
      exact ⟨hle.trans (dropDigit_le m), by omega⟩
    · exact ⟨le_rfl, le_rfl⟩

/-- A mantissa is kept as it is, or what is left of it is still long. -/
theorem fitDigits_near (scale : ℕ) (h : |m - x| ≤ 5 / 9) : fitDigits m scale = (m, scale) ∨
    ∃ k, (fitDigits m scale).2 + k = scale ∧ |(fitDigits m scale).1 - x / 10 ^ k| ≤ 5 / 9 ∧
      2 ^ 52 ≤ 11 * (fitDigits m scale).1 := by
  induction scale generalizing m x with
  | zero => exact .inl rfl
  | succ scale ih =>
    rw [fitDigits, Nat.pow_eq]
    split
    · next hlong =>
      have hdigit : m / 10 ≤ dropDigit m := Nat.le_add_right _ _
      have hnear := abs_dropDigit_sub_le_of_near h
      right
      obtain heq | ⟨k, hscale, hk, hlong⟩ := ih hnear
      · rw [heq]
        exact ⟨1, rfl, by rwa [pow_one], by omega⟩
      · refine ⟨k + 1, by omega, ?_, hlong⟩
        rwa [pow_succ', ← div_div]
    · exact .inl rfl

theorem stripZeros_le (m scale : ℕ) :
    (stripZeros m scale).1 ≤ m ∧ (stripZeros m scale).2 ≤ scale := by
  induction scale generalizing m with
  | zero => exact ⟨le_rfl, le_rfl⟩
  | succ scale ih =>
    rw [stripZeros]
    split
    · obtain ⟨hle, hscale⟩ := ih (m / 10)
      exact ⟨hle.trans (Nat.div_le_self m 10), by omega⟩
    · exact ⟨le_rfl, le_rfl⟩

theorem stripZeros_div (m scale : ℕ) :
    ((stripZeros m scale).1 : ℚ) / 10 ^ (stripZeros m scale).2 = m / 10 ^ scale := by
  induction scale generalizing m with
  | zero => rfl
  | succ scale ih =>
    rw [stripZeros]
    split
    · next hzero =>
      have hm : (m : ℚ) = 10 * (m / 10 : ℕ) := by
        exact_mod_cast (Nat.mul_div_cancel' (Nat.dvd_of_mod_eq_zero hzero)).symm
      rw [ih, hm, pow_succ', mul_div_mul_left _ _ (by norm_num)]
    · rfl

/-- The digits that a decimal keeps, before its zeros are given up. -/
def keptDigits (m scale : ℕ) : ℕ × ℕ :=
  fitDigits (dropPlaces (scale - 28) m scale).1 (dropPlaces (scale - 28) m scale).2

/-- A mantissa within its limit has a decimal if it is not scaled up. -/
theorem exists_ofPower (negative : Bool) {e : ℤ} (hm : m < 2 ^ 96) (he : e ≤ 0) :
    ∃ d, ofPower negative m e = some d ∧ d.negative = negative ∧
      d.size = (keptDigits m e.natAbs).1 / 10 ^ (keptDigits m e.natAbs).2 := by
  have hless : e.natAbs ≤ e.natAbs - 28 + 28 := by omega
  obtain ⟨hdrop, hplaces⟩ := dropPlaces_le m hless
  obtain ⟨hfit, hscale⟩ := fitDigits_le (dropPlaces (e.natAbs - 28) m e.natAbs).1
    (dropPlaces (e.natAbs - 28) m e.natAbs).2
  obtain ⟨hstrip, hzeros⟩ := stripZeros_le (keptDigits m e.natAbs).1 (keptDigits m e.natAbs).2
  have hlimits : (stripZeros (keptDigits m e.natAbs).1 (keptDigits m e.natAbs).2).1 < Nat.pow 2 96 ∧
      (stripZeros (keptDigits m e.natAbs).1 (keptDigits m e.natAbs).2).2 ≤ 28 :=
    ⟨((hstrip.trans hfit).trans hdrop).trans_lt hm, (hzeros.trans hscale).trans hplaces⟩
  rw [ofPower, if_neg (not_lt.mpr he)]
  exact ⟨_, dif_pos hlimits, rfl, stripZeros_div _ _⟩

/-- At most 28 places are kept of a mantissa that is not lost in them. -/
theorem exists_dropPlaces (hx : 24 / 25 / 10 ^ 28 ≤ (m : ℚ) / 10 ^ scale) :
    ∃ k places, dropPlaces (scale - 28) m scale = (k, places) ∧
      |(k : ℚ) - m / 10 ^ scale * 10 ^ places| ≤ 5 / 9 ∧
      |(k : ℚ) / 10 ^ places - m / 10 ^ scale| ≤ 1 / 10 ^ 28 := by
  have hpow (n : ℕ) : (0 : ℚ) < 10 ^ n := by positivity
  rcases le_or_gt scale 28 with hle | hgt
  · refine ⟨m, scale, ?_, ?_, ?_⟩
    · rw [Nat.sub_eq_zero_of_le hle]
      rfl
    · rw [div_mul_cancel₀ _ (hpow scale).ne', sub_self]
      norm_num
    · rw [sub_self]
      norm_num
  · obtain ⟨n, rfl⟩ : ∃ n, scale = 28 + n := ⟨scale - 28, by omega⟩
    have hvalue : (m : ℚ) / 10 ^ (28 + n) * 10 ^ 28 = m / 10 ^ n := by
      rw [pow_add, mul_comm (10 ^ 28 : ℚ), ← div_div, div_mul_cancel₀ _ (hpow 28).ne']
    have hlarge : 24 / 25 ≤ (m : ℚ) / 10 ^ n := by
      rw [← hvalue]
      exact (div_le_iff₀ (hpow 28)).mp hx
    have hexact : |(m : ℚ) - m / 10 ^ n * 10 ^ n| ≤ 5 / 9 := by
      rw [div_mul_cancel₀ _ (hpow n).ne', sub_self]
      norm_num
    obtain ⟨k, hk, hnear⟩ := dropPlaces_near (28 + n) hlarge hexact
    refine ⟨k, 28, ?_, ?_, ?_⟩
    · rw [Nat.add_sub_cancel_left, hk, Nat.add_sub_cancel]
    · rw [hvalue]
      exact hnear
    · have hshare : (k : ℚ) / 10 ^ 28 - m / 10 ^ (28 + n) = (k - m / 10 ^ n) / 10 ^ 28 := by
        rw [sub_div, ← hvalue, mul_div_cancel_right₀ _ (hpow 28).ne']
      rw [hshare, abs_div, abs_of_pos (hpow 28)]
      exact div_le_div_of_nonneg_right (hnear.trans (by norm_num)) (hpow 28).le

/-- Of a mantissa that is less than the last place nothing is kept, or a one in that place. -/
theorem dropPlaces_of_le (h : m ≤ 10 ^ n) :
    dropPlaces n m (n + 28) = (0, 0) ∨ ∃ k ≤ 1, dropPlaces n m (n + 28) = (k, 28) := by
  induction n generalizing m with
  | zero => exact .inr ⟨m, h, by rw [dropPlaces, Nat.zero_add]⟩
  | succ n ih =>
    rw [dropPlaces]
    split
    · exact .inl rfl
    · have hscale : n + 1 + 28 - 1 = n + 28 := by omega
      rw [hscale]
      apply ih
      rw [Nat.pow_succ] at h
      rw [dropDigit]
      split <;> omega

theorem keptDigits_of_le (h : m ≤ 10 ^ n) :
    ((keptDigits m (n + 28)).1 : ℚ) / 10 ^ (keptDigits m (n + 28)).2 ≤ 1 / 10 ^ 28 := by
  rw [keptDigits, Nat.add_sub_cancel]
  obtain hzero | ⟨k, hk, hone⟩ := dropPlaces_of_le h
  · rw [hzero]
    norm_num [fitDigits]
  · have hshort : ¬k ≥ Nat.pow 2 52 := by
      rw [Nat.pow_eq]
      omega
    have hk' : (k : ℚ) ≤ 1 := by exact_mod_cast hk
    rw [hone, fitDigits, if_neg hshort]
    exact div_le_div_of_nonneg_right hk' (by positivity)

/-- The digits that are kept of a number with places are a few roundings away from it, but for the
last place. -/
theorem keptDigits_near_of_le {scale : ℕ} (hlarge : 24 / 25 / 10 ^ 28 ≤ (m : ℚ) / 10 ^ scale) :
    |((keptDigits m scale).1 : ℚ) / 10 ^ (keptDigits m scale).2 - m / 10 ^ scale| ≤
      13 / 2 ^ 53 * (m / 10 ^ scale) + 1 / 10 ^ 28 := by
  obtain ⟨k, places, hdrop, hdigits, hvalue⟩ := exists_dropPlaces hlarge
  rw [keptDigits, hdrop]
  obtain heq | ⟨j, hplaces, hnear, hlong⟩ := fitDigits_near places hdigits
  · rw [heq]
    exact hvalue.trans (le_add_of_nonneg_left (by positivity))
  · generalize fitDigits k places = r at *
    have hpow : (0 : ℚ) < 10 ^ r.2 := by positivity
    have hlong' : (2 : ℚ) ^ 52 ≤ 11 * r.1 := by exact_mod_cast hlong
    rw [← hplaces, pow_add, ← mul_assoc, mul_div_cancel_right₀ _ (by positivity)] at hnear
    have hshare : (r.1 : ℚ) / 10 ^ r.2 - m / 10 ^ scale =
        (r.1 - m / 10 ^ scale * 10 ^ r.2) / 10 ^ r.2 := by
      rw [sub_div, mul_div_cancel_right₀ _ hpow.ne']
    have hdigits : 5 / 9 ≤ 13 / 2 ^ 53 * ((m : ℚ) / 10 ^ scale) * 10 ^ r.2 := by
      linarith [(abs_le.mp hnear).2]
    rw [hshare, abs_div, abs_of_pos hpow, div_le_iff₀ hpow, add_mul]
    exact hnear.trans (hdigits.trans (le_add_of_nonneg_right (by positivity)))

/-- Of a number that is less than the last place no more than that place is kept. -/
theorem keptDigits_near_of_lt (hm : 0 < m) {scale : ℕ}
    (hsmall : (m : ℚ) / 10 ^ scale < 1 / 10 ^ 28) :
    |((keptDigits m scale).1 : ℚ) / 10 ^ (keptDigits m scale).2 - m / 10 ^ scale| ≤
      1 / 10 ^ 28 := by
  have hm' : (1 : ℚ) ≤ m := by exact_mod_cast hm
  have hscale : 28 < scale := by
    by_contra hle
    have hpow : (10 : ℚ) ^ scale ≤ 10 ^ 28 := pow_le_pow_right₀ (by norm_num) (not_lt.mp hle)
    have hleast : (1 : ℚ) / 10 ^ 28 ≤ m / 10 ^ scale :=
      div_le_div₀ (by positivity) hm' (by positivity) hpow
    linarith
  obtain ⟨n, rfl⟩ : ∃ n, scale = n + 28 := ⟨scale - 28, by omega⟩
  have hle : m ≤ 10 ^ n := by
    have hless := hsmall
    rw [pow_add, ← div_div, div_lt_div_iff_of_pos_right (by positivity),
      div_lt_one (by positivity)] at hless
    exact_mod_cast hless.le
  have hkept := keptDigits_of_le hle
  have hkept_nonneg : 0 ≤ ((keptDigits m (n + 28)).1 : ℚ) / 10 ^ (keptDigits m (n + 28)).2 := by
    positivity
  have hvalue_nonneg : 0 ≤ (m : ℚ) / 10 ^ (n + 28) := by positivity
  exact abs_le.mpr ⟨by linarith, by linarith⟩

/-- The digits that are kept are a few roundings away from the mantissa, but for the last place. -/
theorem keptDigits_near (hm : 0 < m) (scale : ℕ) :
    |((keptDigits m scale).1 : ℚ) / 10 ^ (keptDigits m scale).2 - m / 10 ^ scale| ≤
      13 / 2 ^ 53 * (m / 10 ^ scale) + 1 / 10 ^ 28 := by
  rcases le_or_gt (24 / 25 / 10 ^ 28) ((m : ℚ) / 10 ^ scale) with hlarge | hsmall
  · exact keptDigits_near_of_le hlarge
  · have hlast : (m : ℚ) / 10 ^ scale < 1 / 10 ^ 28 := by linarith
    exact (keptDigits_near_of_lt hm hlast).trans (le_add_of_nonneg_left (by positivity))

end Places

section

variable {code : ℕ} (h : code ≤ infinityCode)

/-- A power of two that is no less than one gives a whole number. -/
theorem ofDouble?_of_power_pos (negative : Bool) (hpower : 0 < power code)
    (hfinite : code ≠ infinityCode) :
    ofDouble? (.signed negative code h) =
      make? negative (significand code * 2 ^ (power code).toNat) 0 := by
  have hnat : power code = (power code).toNat := by omega
  have hcode : code ≠ 0 := by
    have := le_of_power_pos hpower
    omega
  rw [ofDouble?, if_neg hfinite, if_neg hcode, if_neg (not_le.mpr hpower)]
  have hbind := divideFives_bind negative (power code).toNat
    ((significand_lt code).trans (by decide : 2 ^ 53 < 2 ^ 96))
  rwa [← hnat] at hbind

/-- Below that the factors of five are taken in. -/
theorem ofDouble?_of_power_nonpos (negative : Bool) (hpower : power code ≤ 0)
    (hcode : 0 < code) (hfinite : code ≠ infinityCode) :
    ∃ r, Absorbs (power code).natAbs (significand code) (power code) r ∧
      ofDouble? (.signed negative code h) = ofPower negative r.1 r.2 := by
  refine ⟨_, absorbs_absorbFives (power code).natAbs (power code) (significand_pos hcode)
    ((significand_lt code).trans (by decide)), ?_⟩
  rw [ofDouble?, if_neg hfinite, if_neg hcode.ne', if_pos hpower]

theorem magnitude_of_power_pos (hpower : 0 < power code) :
    magnitude code = (significand code * 2 ^ (power code).toNat : ℕ) := by
  have hnat : power code = (power code).toNat := by omega
  rw [magnitude, zpow_eq, hnat, zpow_natCast, Int.toNat_natCast]
  push_cast
  rfl

theorem magnitude_of_power_nonpos (hpower : power code ≤ 0) :
    magnitude code = 5 ^ (power code).natAbs * scaled (significand code) (power code) := by
  obtain ⟨n, hn⟩ : ∃ n : ℕ, power code = -n := ⟨(power code).natAbs, by omega⟩
  have hten : (10 : ℚ) ^ n = 5 ^ n * 2 ^ n := by rw [← mul_pow]; norm_num
  rw [magnitude, zpow_eq, hn, Int.natAbs_neg, Int.natAbs_natCast, scaled_neg, zpow_neg,
    zpow_natCast, hten]
  field_simp

theorem power_natAbs_le (hpower : power code ≤ 0) : (power code).natAbs ≤ 1074 := by
  rw [power, Nat.pow_eq] at hpower ⊢
  split <;> omega

/-- A decimal that a number of a sign and a magnitude may have: it is a few roundings away from the
magnitude, but for the last place. -/
structure StandsFor (d : Decimal) (negative : Bool) (x : ℚ) : Prop where
  negative_eq : d.negative = negative
  near : |d.size - x| ≤ 16 / 2 ^ 53 * x + 1 / 10 ^ 28

theorem exists_ofDouble?_of_power_pos (negative : Bool) (hpower : 0 < power code)
    (hlt : magnitude code < 2 ^ 96) (hfinite : code ≠ infinityCode) :
    ∃ d : Decimal, ofDouble? (.signed negative code h) = some d ∧
      d.StandsFor negative (magnitude code) := by
  have hmagnitude := magnitude_of_power_pos hpower
  have hlimit : significand code * 2 ^ (power code).toNat < 2 ^ 96 := by
    rw [hmagnitude] at hlt
    exact_mod_cast hlt
  have hd := ofDouble?_of_power_pos h negative hpower hfinite
  rw [make?, dif_pos ⟨hlimit, Nat.zero_le 28⟩] at hd
  refine ⟨_, hd, rfl, ?_⟩
  have hnonneg := magnitude_nonneg code
  rw [size, pow_zero, div_one, ← hmagnitude, sub_self, abs_zero]
  positivity

theorem exists_ofDouble?_of_power_nonpos (negative : Bool) (hpower : power code ≤ 0)
    (hcode : 0 < code) (hfinite : code ≠ infinityCode) :
    ∃ d : Decimal, ofDouble? (.signed negative code h) = some d ∧
      d.StandsFor negative (magnitude code) := by
  obtain ⟨r, hr, hdouble⟩ := ofDouble?_of_power_nonpos h negative hpower hcode hfinite
  have hle : r.2 ≤ 0 := by
    have := hr.power_le
    omega
  have hscaled : (r.1 : ℚ) / 10 ^ r.2.natAbs = scaled r.1 r.2 := by
    rw [← scaled_neg, show -(r.2.natAbs : ℤ) = r.2 by omega]
  have hnear := hr.near (power_natAbs_le hpower)
  rw [← magnitude_of_power_nonpos hpower] at hnear
  obtain ⟨d, hd, hnegative, hsize⟩ := exists_ofPower negative hr.lt hle
  refine ⟨d, hdouble.trans hd, hnegative, ?_⟩
  have hkept := keptDigits_near hr.pos r.2.natAbs
  rw [hscaled, ← hsize] at hkept
  have hnonneg := magnitude_nonneg code
  have habsorbed := hnear.abs_sub_le (scaled_nonneg _ _) hnonneg (by norm_num)
  obtain ⟨hbelow, habove⟩ := abs_le.mp habsorbed
  obtain ⟨hbelow', habove'⟩ := abs_le.mp hkept
  push_cast at hbelow habove
  exact abs_le.mpr ⟨by linarith, by linarith⟩

/-- A number whose magnitude is below `2 ^ 96` has a decimal. -/
theorem exists_ofDouble? (negative : Bool) (hlt : code < 1119 * 2 ^ 52) :
    ∃ d : Decimal, ofDouble? (.signed negative code h) = some d ∧
      d.StandsFor negative (magnitude code) := by
  have hfinite : code ≠ infinityCode := by
    rw [infinityCode, Nat.pow_eq]
    omega
  rcases Nat.eq_zero_or_pos code with rfl | hcode
  · refine ⟨⟨negative, 0, 0, by decide, by decide⟩, rfl, rfl, ?_⟩
    have hzero : magnitude 0 = 0 := zero_mul _
    rw [hzero, size]
    norm_num
  · rcases le_or_gt (power code) 0 with hpower | hpower
    · exact exists_ofDouble?_of_power_nonpos h negative hpower hcode hfinite
    · exact exists_ofDouble?_of_power_pos h negative hpower (magnitude_lt_iff.mpr hlt) hfinite

theorem ofDouble?_eq_none (negative : Bool) (hge : 1119 * 2 ^ 52 ≤ code) :
    ofDouble? (.signed negative code h) = none := by
  rcases eq_or_ne code infinityCode with rfl | hfinite
  · rw [ofDouble?, if_pos rfl]
  · have hpower : 0 < power code := by
      rw [power, Nat.pow_eq, if_neg (by omega)]
      omega
    have hlimit : ¬(significand code * 2 ^ (power code).toNat < Nat.pow 2 96 ∧ 0 ≤ 28) := by
      intro hlt
      have hmagnitude : magnitude code < 2 ^ 96 := by
        rw [magnitude_of_power_pos hpower]
        exact_mod_cast hlt.1
      exact absurd (magnitude_lt_iff.mp hmagnitude) (not_lt.mpr hge)
    rw [ofDouble?_of_power_pos h negative hpower hfinite, make?, dif_neg hlimit]

end

/-- Exactly the numbers between `-2 ^ 96` and `2 ^ 96` have a decimal. -/
theorem isSome_ofDouble?_iff (x : Double) :
    (ofDouble? x).isSome ↔ ∃ r, x.toRat? = some r ∧ |r| < 2 ^ 96 := by
  cases x with
  | nan => simp [ofDouble?, Double.toRat?]
  | signed negative code h =>
    rw [exists_toRat?_iff]
    rcases lt_or_ge code (1119 * 2 ^ 52) with hlt | hge
    · obtain ⟨d, hd, -⟩ := exists_ofDouble? h negative hlt
      exact iff_of_true (by rw [hd]; rfl) hlt
    · rw [ofDouble?_eq_none h negative hge]
      exact iff_of_false Bool.false_ne_true (not_lt.mpr hge)

end Decimal

end Criteria.Number
