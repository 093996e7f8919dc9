import Criteria.Proofs.Comparison.Numbers

/-!
# The number that a value denotes

A value that is both an integer and a decimal denotes a whole number, and its decimal is exactly
that number, where decimals keep to their laws. The integer is the nearest of 64 bits, so the two
are the same number unless the value is a floating-point number outside the range of integers.
-/
namespace Criteria

open Number (Decimal Decimals Double clamp64 int64?)

namespace Number

/-- The nearest integer of 64 bits. -/
theorem toInt_clamp64 (i : ℤ) : (clamp64 i).toInt = max (-2 ^ 63) (min i (2 ^ 63 - 1)) := by
  rw [clamp64, Int.pow_eq, Int64.toInt_ofInt_of_le] <;> omega

theorem toInt_clamp64_eq_iff {i : ℤ} : (clamp64 i).toInt = i ↔ -2 ^ 63 ≤ i ∧ i < 2 ^ 63 := by
  rw [toInt_clamp64]
  omega

theorem clamp64_toInt (n : Int64) : clamp64 n.toInt = n :=
  Int64.toInt_inj.mp (toInt_clamp64_eq_iff.mpr ⟨n.le_toInt, n.toInt_lt⟩)

/-- The whole number that a floating-point number is, as its exact value. -/
theorem Double.toRat?_of_whole? {x : Double} {i : ℤ} (h : x.whole? = some i) :
    x.toRat? = some (i : ℚ) := by
  obtain ⟨r, hr, hwhole⟩ := Option.bind_eq_some_iff.mp h
  split at hwhole
  · next hden => rw [hr, ← Option.some.inj hwhole, Rat.coe_int_num_of_den_eq_one hden]
  · contradiction

end Number

namespace Value

section Laws

variable [Decimals] {value : Decimals.Carrier → ℚ} (hvalued : Decimals.Valued value)
  (hreads : Decimals.Reads value) (hwhole : Decimals.Whole value) {v : Value} {n : Int64}
  {d : Decimals.Carrier}

include hvalued hreads hwhole

/-- Both views of a value are of one whole number, which the decimal is and the integer is nearest
to. -/
theorem exists_whole (hn : v.asInt = some n) (hd : v.asDecimal = some d) :
    ∃ i : ℤ, value d = i ∧ n = clamp64 i ∧ (v.isNumber → v.toRat? = some (value d)) ∧
      ((∀ x, v ≠ float x) → i = n.toInt) := by
  cases v with
  | int m =>
    obtain rfl := Option.some.inj hn
    obtain rfl := Option.some.inj hd
    have hvalue := hvalued.value_ofInt64 m
    exact ⟨m.toInt, hvalue, (Number.clamp64_toInt m).symm, fun _ => congrArg some hvalue.symm,
      fun _ => rfl⟩
  | float x =>
    obtain ⟨i, hi, hclamp⟩ := Option.map_eq_some_iff.mp hn
    have hexact := Double.toRat?_of_whole? hi
    have hvalue := hwhole.whole_ofDouble hd hexact
    exact ⟨i, hvalue, hclamp.symm, fun _ => hexact.trans (congrArg some hvalue.symm),
      fun h => absurd rfl (h x)⟩
  | text s =>
    obtain ⟨e, he, hvalue⟩ := hreads.integer hn
    obtain rfl := Option.some.inj (hd.symm.trans he)
    exact ⟨n.toInt, hvalue, (Number.clamp64_toInt n).symm, fun h => absurd h Bool.false_ne_true,
      fun _ => rfl⟩
  | bool b => contradiction

/-- Where a value is both an integer and a decimal, the decimal is a whole number, exactly that of a
value that is a number, and the integer is the nearest to it. So both are the same number just if it
has 64 bits, as it always has unless the value is a floating-point number. -/
theorem asInt_asDecimal (hn : v.asInt = some n) (hd : v.asDecimal = some d) :
    (∃ i : ℤ, value d = i ∧ n = clamp64 i) ∧ (v.isNumber → v.toRat? = some (value d)) ∧
      ((n.toInt : ℚ) = value d ↔ -2 ^ 63 ≤ value d ∧ value d < 2 ^ 63) ∧
      ((∀ x, v ≠ float x) → (n.toInt : ℚ) = value d) := by
  obtain ⟨i, hvalue, hclamp, hexact, hinteger⟩ := exists_whole hvalued hreads hwhole hn hd
  refine ⟨⟨i, hvalue, hclamp⟩, hexact, ?_, fun h => ?_⟩
  · rw [hvalue, hclamp]
    exact_mod_cast Number.toInt_clamp64_eq_iff
  · rw [hvalue, hinteger h]

end Laws

/-- The least integer as a floating-point number. -/
theorem asInt_asDecimal_least :
    let v : Value := .float (Double.nearest true (2 ^ 63))
    let d : Decimal := ⟨true, 2 ^ 63, 0, by decide, by decide⟩
    (Decimals.Valued Decimal.toRat ∧ Decimals.Reads Decimal.toRat ∧ Decimals.Whole Decimal.toRat ∧
      v.asInt = some Int64.minValue ∧ v.asDecimal = some d) ∧
      (Int64.minValue.toInt : ℚ) = d.toRat := by
  intro v d
  have hn : v.asInt = some Int64.minValue := by decide +kernel
  have hd : Decimal.ofDouble? (Double.nearest true (2 ^ 63)) = some d := by decide +kernel
  obtain ⟨-, -, hsame, -⟩ := asInt_asDecimal Decimal.valued Decimal.reads Decimal.whole hn hd
  exact ⟨⟨Decimal.valued, Decimal.reads, Decimal.whole, hn, hd⟩, hsame.mpr (by decide +kernel)⟩

/-- The first floating-point number above all integers of 64 bits is whole, and is taken for the
greatest of them. -/
theorem not_asInt_asDecimal :
    ¬∀ (v : Value) (n : Int64) (d : Decimal), v.asInt = some n → v.asDecimal = some d →
      (n.toInt : ℚ) = d.toRat := by
  intro h
  let v : Value := .float (Double.nearest false (2 ^ 63))
  let d : Decimal := ⟨false, 2 ^ 63, 0, by decide, by decide⟩
  have hn : v.asInt = some Int64.maxValue := by decide +kernel
  have hd : Decimal.ofDouble? (Double.nearest false (2 ^ 63)) = some d := by decide +kernel
  exact absurd (h v Int64.maxValue d hn hd) (by decide +kernel)

end Value

end Criteria
