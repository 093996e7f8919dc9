import Criteria.Number.Limited
import Criteria.Proofs.Number.Laws
import Criteria.Proofs.Number.ToDecimal
import Criteria.Proofs.Number.Whole

/-!
# The decimals of limited size keep to the laws

Their value is the exact one. A decimal that becomes a floating-point number is off by a few
roundings, and so is the decimal for a floating-point number, but for its last place.
-/
namespace Criteria.Number.Decimal

open Double

/-- A magnitude that is far below infinity. -/
theorem toRat?_signed {code : ℕ} (hcode : code ≤ infinityCode) (negative : Bool)
    (hle : magnitude code ≤ 10 ^ 30) : (Double.signed negative code hcode).toRat? =
      some ((if negative then -1 else 1) * magnitude code) := by
  have hinfinity : ¬magnitude infinityCode ≤ 10 ^ 30 := by decide +kernel
  have hfinite : code ≠ infinityCode := fun heq => hinfinity (heq ▸ hle)
  rw [toRat?, if_neg hfinite]
  cases negative <;> simp

theorem abs_sign_mul (negative : Bool) (x : ℚ) : |(if negative then -1 else 1) * x| = |x| := by
  cases negative <;> simp

/-- The number for a decimal has its sign and about its size. -/
theorem exists_toRat?_toDouble (d : Decimal) : ∃ x,
    d.toDouble.toRat? = some ((if d.negative then -1 else 1) * x) ∧
      |x - d.size| ≤ 1 / 10 ^ 14 * d.size := by
  rcases Nat.eq_zero_or_pos d.mantissa with hzero | hpos
  · have hd : d.mantissa = 0 * 10 ^ d.scale := hzero.trans (Nat.zero_mul _).symm
    have hsize : d.size = 0 := by rw [size, hzero, Nat.cast_zero, zero_div]
    have hmagnitude : magnitude (codeOf ((0 : ℕ) : ℚ)) = 0 := rounded_zero
    rw [toDouble_whole hd (by decide), hsize]
    refine ⟨_, toRat?_signed _ _ (by rw [hmagnitude]; norm_num), ?_⟩
    rw [hmagnitude]
    norm_num
  · obtain ⟨code, hcode, hdouble, hnear⟩ := exists_toDouble hpos
    have hsize := size_pos hpos
    have hclose := hnear.abs_sub_le (magnitude_nonneg code) hsize.le (by norm_num)
    push_cast at hclose
    have hlimit := d.size_le_ten_pow
    obtain ⟨-, hhigh⟩ := abs_le.mp hclose
    rw [hdouble]
    refine ⟨_, toRat?_signed hcode _ (by linarith), hclose.trans ?_⟩
    linarith

/-- A decimal for a number has its sign and about its size, but for the last place. -/
theorem toRat_ofDouble? {x : Double} {d : Decimal} {r : ℚ} (h : ofDouble? x = some d)
    (hr : x.toRat? = some r) : |d.toRat - r| ≤ 1 / 10 ^ 14 * |r| + 1 / 10 ^ 28 := by
  obtain ⟨r', hr', hlimit⟩ := (isSome_ofDouble?_iff x).mp (Option.isSome_iff_exists.mpr ⟨d, h⟩)
  obtain rfl := Option.some.inj (hr.symm.trans hr')
  cases x with
  | nan => contradiction
  | signed negative code hcode =>
    have hlt := exists_toRat?_iff.mp ⟨r, hr, hlimit⟩
    obtain ⟨e, he, hstands⟩ := exists_ofDouble? hcode negative hlt
    obtain rfl := Option.some.inj (h.symm.trans he)
    have hsmall : magnitude code ≤ 10 ^ 30 := (magnitude_lt_iff.mpr hlt).le.trans (by norm_num)
    obtain rfl := Option.some.inj (hr.symm.trans (toRat?_signed hcode negative hsmall))
    have hnonneg := magnitude_nonneg code
    rw [toRat_eq, hstands.negative_eq, ← mul_sub, abs_sign_mul, abs_sign_mul, abs_of_nonneg hnonneg]
    exact hstands.near.trans (by linarith)

/-- A decimal that is a whole number has the digits of that number and zeros behind the point. -/
theorem mantissa_of_toRat_eq {d : Decimal} {i : ℤ} (h : d.toRat = i) :
    d.mantissa = i.natAbs * 10 ^ d.scale := by
  have hsize : d.size = i.natAbs := by rw [← abs_toRat, h, Nat.cast_natAbs, Int.cast_abs]
  have hmantissa : (d.mantissa : ℚ) = i.natAbs * 10 ^ d.scale := by
    rw [← hsize, size, div_mul_cancel₀ _ (by positivity)]
  exact_mod_cast hmantissa

/-- Below `2 ^ 53` there is a floating-point number for each whole number. -/
theorem toRat?_toDouble_whole {d : Decimal} {i : ℤ} (hi : d.toRat = i) (hlt : |i| < 2 ^ 53) :
    d.toDouble.toRat? = some (i : ℚ) := by
  have hk : i.natAbs < 2 ^ 53 := by
    rw [Int.abs_eq_natAbs] at hlt
    exact_mod_cast hlt
  have hk' : ((i.natAbs : ℕ) : ℚ) < 2 ^ 53 := by exact_mod_cast hk
  have hmagnitude : magnitude (codeOf ((i.natAbs : ℕ) : ℚ)) = i.natAbs := rounded_natCast hk
  have hsmall : magnitude (codeOf ((i.natAbs : ℕ) : ℚ)) ≤ 10 ^ 30 := by
    rw [hmagnitude]
    exact hk'.le.trans (by norm_num)
  have hsize : d.size = i.natAbs := by rw [← abs_toRat, hi, Nat.cast_natAbs, Int.cast_abs]
  rw [toDouble_whole (mantissa_of_toRat_eq hi) hk, Double.nearest, toRat?_signed _ _ hsmall,
    hmagnitude, ← hsize, ← toRat_eq, hi]

/-- A whole number is its own decimal if it fits. -/
theorem ofDouble?_of_whole {code : ℕ} (h : code ≤ infinityCode) (negative : Bool)
    (hfinite : code ≠ infinityCode) {k : ℕ} (hk : magnitude code = k) :
    ofDouble? (.signed negative code h) = make? negative k 0 := by
  rcases Nat.eq_zero_or_pos code with rfl | hcode
  · have hzero : k = 0 := by
      rw [magnitude, significand, if_pos (by decide), Nat.cast_zero, zero_mul] at hk
      exact_mod_cast hk.symm
    rw [hzero]
    rfl
  · rcases lt_or_ge 0 (power code) with hpower | hpower
    · have hvalue : significand code * 2 ^ (power code).toNat = k := by
        rw [magnitude_of_power_pos hpower] at hk
        exact_mod_cast hk
      rw [ofDouble?_of_power_pos h negative hpower hfinite, hvalue]
    · -- The significand holds a two for each factor of five that the power asks for.
      obtain ⟨n, hn⟩ : ∃ n : ℕ, power code = -n := ⟨(power code).natAbs, by omega⟩
      have hvalue : significand code = k * 2 ^ n := by
        rw [magnitude, zpow_eq, hn, zpow_neg, zpow_natCast,
          mul_inv_eq_iff_eq_mul₀ (by positivity)] at hk
        exact_mod_cast hk
      rw [ofDouble?, if_neg hfinite, if_neg hcode.ne', if_pos hpower, hvalue, hn, Int.natAbs_neg,
        Int.natAbs_natCast, absorbFives_two_pow, Int.add_left_neg]
      exact ofPower_zero negative k

theorem toRat_of_make? {negative : Bool} {k : ℕ} {d : Decimal} (hd : make? negative k 0 = some d) :
    d.toRat = if negative then -(k : ℚ) else k := by
  rw [make?] at hd
  split at hd
  · obtain rfl := Option.some.inj hd
    rw [toRat_eq, size, pow_zero, div_one]
    cases negative <;> simp
  · contradiction

/-- The decimal of a whole number has exactly its value. -/
theorem toRat_ofDouble?_whole {x : Double} {d : Decimal} {i : ℤ} (hd : ofDouble? x = some d)
    (hi : x.toRat? = some (i : ℚ)) : d.toRat = i := by
  cases x with
  | nan => contradiction
  | signed negative code h =>
    rw [Double.toRat?] at hi
    split at hi
    · contradiction
    next hfinite =>
    have hsigned := Option.some.inj hi
    have hmagnitude : magnitude code = i.natAbs := by
      rw [Nat.cast_natAbs, Int.cast_abs, ← hsigned]
      split
      · rw [abs_neg, abs_of_nonneg (magnitude_nonneg code)]
      · rw [abs_of_nonneg (magnitude_nonneg code)]
    rw [ofDouble?_of_whole h negative hfinite hmagnitude] at hd
    rw [toRat_of_make? hd, ← hmagnitude, hsigned]

theorem valued : Decimals.Valued toRat where
  order_eq := order_eq_compare
  value_ofInt64 := toRat_ofInt64

theorem reads : Decimals.Reads toRat where
  integer h := ⟨_, read?_of_int64? h, toRat_ofInt64 _⟩
  letter := read?_cons_of_isAlpha

theorem ranged : Decimals.Ranged where
  finite d := by
    obtain ⟨x, hx, -⟩ := d.exists_toRat?_toDouble
    exact ⟨_, _, rfl, hx⟩
  isSome_ofDouble?_iff := isSome_ofDouble?_iff

theorem whole : Decimals.Whole toRat where
  whole_toDouble h hi hlt := by
    obtain rfl := Option.some.inj h
    exact toRat?_toDouble_whole hi hlt
  whole_ofDouble := toRat_ofDouble?_whole

theorem close : Decimals.Close toRat where
  close_toDouble {d _ _} h hr := by
    obtain rfl := Option.some.inj h
    obtain ⟨x, hx, hclose⟩ := d.exists_toRat?_toDouble
    obtain rfl := Option.some.inj (hr.symm.trans hx)
    rwa [toRat_eq, ← mul_sub, abs_sign_mul, abs_sign_mul, abs_of_nonneg d.size_nonneg]
  close_ofDouble := toRat_ofDouble?

theorem lawful : Decimals.Lawful toRat := ⟨valued, reads, ranged, whole, close⟩

theorem total : Decimals.Total where
  transCmp := inferInstanceAs (Std.TransCmp
    (Ordering.byKey (fun d : Decimal => d.signed * Int.pow 10 (28 - d.scale)) compare))
  order_ofInt64 m n := by
    rw [valued.order_eq, valued.value_ofInt64, valued.value_ofInt64, ← cmp_eq_compare,
      ← cmp_eq_compare, (Int.cast_strictMono (R := ℚ)).cmp_map_eq]

end Criteria.Number.Decimal
