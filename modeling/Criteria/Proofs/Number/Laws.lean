import Criteria.Number.Decimals
import Criteria.Number.Integer
import Mathlib

/-!
# Laws of decimals

What is shown about comparisons rests on what decimals are like, so it is shown for all decimals
that keep to a few laws, and each result names those that it needs. Most of them speak of the value
that a decimal stands for. A decimal that goes through a floating-point number and back comes out
near its value, and so in the same order with all whole numbers that are not as near to it.
-/
namespace Criteria.Number.Decimals

section Laws

variable [Decimals]

/-- The order of decimals is a total preorder, in which those of integers are as the integers. -/
structure Total : Prop where
  transCmp : Std.TransCmp (order : Carrier → Carrier → Ordering)
  order_ofInt64 (m n : Int64) : order (ofInt64 m) (ofInt64 n) = compare m.toInt n.toInt

/-- Decimals are in the order of their values, and those of integers have the values of these. -/
structure Valued (value : Carrier → ℚ) : Prop where
  order_eq (a b : Carrier) : order a b = compare (value a) (value b)
  value_ofInt64 (n : Int64) : value (ofInt64 n) = n.toInt

/-- The text of an integer is a decimal of its value, and no decimal begins with a letter. -/
structure Reads (value : Carrier → ℚ) : Prop where
  integer {cs : List Char} {n : Int64} (h : int64? cs = some n) :
    ∃ d, read? cs = some d ∧ value d = n.toInt
  letter {c : Char} (h : c.isAlpha) (rest : List Char) : read? (c :: rest) = none

/-- Every decimal has a floating-point number, which is finite, and exactly the floating-point
numbers between `-2 ^ 96` and `2 ^ 96` have a decimal. -/
structure Ranged : Prop where
  finite (d : Carrier) : ∃ x r, toDouble? d = some x ∧ x.toRat? = some r
  isSome_ofDouble?_iff (x : Double) :
    (ofDouble? x : Option Carrier).isSome ↔ ∃ r, x.toRat? = some r ∧ |r| < 2 ^ 96

/-- A whole number that is converted is still the same number. A decimal has to be below `2 ^ 53`
for that, where floating-point numbers have all whole numbers. -/
structure Whole (value : Carrier → ℚ) : Prop where
  whole_toDouble {d : Carrier} {x : Double} {i : ℤ} (h : toDouble? d = some x)
    (hi : value d = i) (hlt : |i| < 2 ^ 53) : x.toRat? = some (i : ℚ)
  whole_ofDouble {x : Double} {d : Carrier} {i : ℤ} (h : ofDouble? x = some d)
    (hi : x.toRat? = some (i : ℚ)) : value d = i

/-- Fourteen digits of a number are kept when it is converted, but only 28 places of a decimal. -/
structure Close (value : Carrier → ℚ) : Prop where
  close_toDouble {d : Carrier} {x : Double} {r : ℚ} (h : toDouble? d = some x)
    (hr : x.toRat? = some r) : |r - value d| ≤ 1 / 10 ^ 14 * |value d|
  close_ofDouble {x : Double} {d : Carrier} {r : ℚ} (h : ofDouble? x = some d)
    (hr : x.toRat? = some r) : |value d - r| ≤ 1 / 10 ^ 14 * |r| + 1 / 10 ^ 28

/-- All laws that speak of values, and the ranges. -/
structure Lawful (value : Carrier → ℚ) : Prop extends
  Valued value, Reads value, Ranged, Whole value, Close value

theorem Valued.order_of_value_eq {value : Carrier → ℚ} (h : Valued value) {a b : Carrier}
    (heq : value a = value b) : order a b = .eq := by
  rw [h.order_eq, heq]
  exact compare_eq_iff_eq.mpr rfl

end Laws

/-- What lies on the same side of a value is in the same order with it. -/
theorem compare_eq_of_abs_sub_lt {x y z : ℚ} (h : |y - z| < |x - z|) :
    compare x y = compare x z := by
  rcases lt_or_ge x z with hlt | hge
  · rw [abs_of_neg (sub_neg.mpr hlt)] at h
    have hy : x < y := by linarith [(abs_lt.mp h).1]
    rw [compare_lt_iff_lt.mpr hlt, compare_lt_iff_lt.mpr hy]
  · rw [abs_of_nonneg (sub_nonneg.mpr hge)] at h
    have hz : z < x := hge.lt_of_ne fun heq => by
      rw [heq, sub_self] at h
      exact (abs_nonneg _).not_gt h
    have hy : y < x := by linarith [(abs_lt.mp h).2]
    rw [compare_gt_iff_gt.mpr hz, compare_gt_iff_gt.mpr hy]

/-- Values that keep their order with a whole number when a decimal goes through a floating-point
number and back: those that are not too near to it, and whole numbers below `2 ^ 53`. -/
inductive KeepsOrder (r : ℚ) (n : ℤ) : Prop where
  | far (h : 3 / 10 ^ 14 * |r| + 1 / 10 ^ 28 < |n - r|)
  | whole {k : ℤ} (h : r = k) (hlt : |k| < 2 ^ 53)

/-- Values of at most thirteen digits, with at most 27 places. -/
def Short (r : ℚ) : Prop :=
  ∃ (m : ℤ) (places : ℕ), |m| < 10 ^ 13 ∧ places ≤ 27 ∧ r = m / 10 ^ places

/-- Short values keep their order with all whole numbers. -/
theorem Short.keepsOrder {r : ℚ} (h : Short r) (n : ℤ) : KeepsOrder r n := by
  obtain ⟨m, places, hm, hplaces, rfl⟩ := h
  have hpow : (0 : ℚ) < 10 ^ places := by positivity
  have hm' : |(m : ℚ)| < 10 ^ 13 := by exact_mod_cast hm
  by_cases heq : n * 10 ^ places = m
  · have hle : |n| ≤ |m| := by
      rw [← heq, abs_mul]
      exact le_mul_of_one_le_right (abs_nonneg n) (Int.one_le_abs (by positivity))
    refine .whole (k := n) ?_ (by omega)
    rw [← heq]
    push_cast
    rw [mul_div_cancel_right₀ _ hpow.ne']
  · -- The distance is one of the last place at least, of which the digits leave a third.
    have hone : 1 ≤ |(n : ℚ) * 10 ^ places - m| := by
      exact_mod_cast Int.one_le_abs (sub_ne_zero.mpr heq)
    have hlast : (10 : ℚ) ^ places / 10 ^ 28 ≤ 1 / 10 := by
      rw [div_le_iff₀ (by norm_num)]
      exact (pow_le_pow_right₀ (by norm_num) hplaces).trans (by norm_num)
    have hvalue : (n : ℚ) - m / 10 ^ places = (n * 10 ^ places - m) / 10 ^ places := by
      rw [sub_div, mul_div_cancel_right₀ _ hpow.ne']
    refine .far ?_
    rw [hvalue, abs_div, abs_div, abs_of_pos hpow, lt_div_iff₀ hpow, add_mul, mul_assoc,
      div_mul_cancel₀ _ hpow.ne', one_div_mul_eq_div]
    linarith

namespace Lawful

variable [Decimals] {value : Carrier → ℚ} {d e : Carrier} {x : Double}

/-- A decimal that comes back differs by twice what a conversion changes, and a little more. -/
theorem abs_back_sub_le (h : Lawful value) (hx : toDouble? d = some x) (he : ofDouble? x = some e) :
    |value e - value d| ≤ 3 / 10 ^ 14 * |value d| + 1 / 10 ^ 28 := by
  obtain ⟨y, r, hy, hr⟩ := h.finite d
  obtain rfl := Option.some.inj (hx.symm.trans hy)
  have hto := h.close_toDouble hx hr
  have hfrom := h.close_ofDouble he hr
  have hsize := abs_sub_abs_le_abs_sub r (value d)
  have htriangle := abs_sub_le (value e) r (value d)
  have hnonneg := abs_nonneg (value d)
  linarith

/-- A decimal that comes back is in the same order as before with the whole numbers with which its
value keeps its order. -/
theorem compare_back (h : Lawful value) (hx : toDouble? d = some x) (he : ofDouble? x = some e)
    {n : ℤ} (hkeeps : KeepsOrder (value d) n) :
    compare (n : ℚ) (value e) = compare (n : ℚ) (value d) := by
  cases hkeeps with
  | far hfar => exact compare_eq_of_abs_sub_lt ((h.abs_back_sub_le hx he).trans_lt hfar)
  | whole hk hlt => rw [h.whole_ofDouble he (h.whole_toDouble hx hk hlt), hk]

/-- Decimals of moderate size come back. -/
theorem exists_back (h : Lawful value) (hlt : |value d| < 2 ^ 95) :
    ∃ x e, toDouble? d = some x ∧ ofDouble? x = some e := by
  obtain ⟨x, r, hx, hr⟩ := h.finite d
  have hto := h.close_toDouble hx hr
  have hsize := abs_sub_abs_le_abs_sub r (value d)
  have hlimit : |r| < 2 ^ 96 := by linarith
  obtain ⟨e, he⟩ := Option.isSome_iff_exists.mp ((h.isSome_ofDouble?_iff x).mpr ⟨r, hr, hlimit⟩)
  exact ⟨x, e, hx, he⟩

end Lawful

end Criteria.Number.Decimals
