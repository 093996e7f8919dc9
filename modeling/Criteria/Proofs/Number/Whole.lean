import Criteria.Number.DecimalText
import Mathlib

/-!
# Whole numbers as texts

The digits of a number are read back as that number, by the reader of integers and, where they stand
for a 64-bit integer, by the reader of decimals. So a text that is an integer is the same number for
both.
-/
namespace Criteria.Number

theorem digit?_eq_none {c : Char} : digit? c = none ↔ c.isDigit = false := by simp [digit?]

theorem digit?_eq_some {c : Char} {d : Nat} :
    digit? c = some d ↔ c.isDigit ∧ c.toNat - 48 = d := by simp [digit?]

/-- The number that digits add to is no less than the one before them. -/
theorem le_ofDigitChars (cs : List Char) (acc : Nat) : acc ≤ Nat.ofDigitChars 10 cs acc := by
  rw [Nat.ofDigitChars_eq_ofDigitChars_zero]
  exact Nat.le_add_right_of_le (Nat.le_mul_of_pos_left acc (Nat.pow_pos (by decide)))

theorem ofDigitChars_cons_digit {c : Char} {d : Nat} (h : digit? c = some d) (cs : List Char)
    (acc : Nat) : Nat.ofDigitChars 10 (c :: cs) acc = Nat.ofDigitChars 10 cs (acc * 10 + d) := by
  rw [Nat.ofDigitChars_cons, Nat.mul_comm, ← (digit?_eq_some.mp h).2]
  rfl

/-- At least one digit, and nothing else. -/
structure Digits (cs : List Char) : Prop where
  ne_nil : cs ≠ []
  isDigit : ∀ c ∈ cs, c.isDigit

theorem Digits.ne_sign {c : Char} {rest : List Char} (h : Digits (c :: rest)) :
    c ≠ '+' ∧ c ≠ '-' := by
  have hc := h.isDigit c List.mem_cons_self
  exact ⟨fun heq => absurd (heq ▸ hc) (by decide), fun heq => absurd (heq ▸ hc) (by decide)⟩

theorem digits_toDigits (k : Nat) : Digits (Nat.toDigits 10 k) where
  ne_nil := Nat.toDigits_ne_nil
  isDigit _ hc := Nat.isDigit_of_mem_toDigits (by decide) (by decide) hc

/-- The texts that are the whole number `i`: digits, with or without a sign. -/
inductive Spells (i : Int) : List Char → Prop where
  | plain {cs : List Char} (hdigits : Digits cs) (hi : i = Nat.ofDigitChars 10 cs 0) : Spells i cs
  | plus {cs : List Char} (hdigits : Digits cs) (hi : i = Nat.ofDigitChars 10 cs 0) :
    Spells i ('+' :: cs)
  | minus {cs : List Char} (hdigits : Digits cs) (hi : i = -(Nat.ofDigitChars 10 cs 0 : Int)) :
    Spells i ('-' :: cs)

theorem spells_toString (i : Int) : Spells i (toString i).toList := by
  cases i with
  | ofNat k =>
    have htext : (toString (Int.ofNat k)).toList = Nat.toDigits 10 k := by
      rw [Int.toString_eq_repr]
      simp [Int.repr]
    rw [htext]
    exact .plain (digits_toDigits k) (by rw [Nat.ofDigitChars_ten_toDigits]; rfl)
  | negSucc k =>
    have htext : (toString (Int.negSucc k)).toList = '-' :: Nat.toDigits 10 (k + 1) := by
      rw [Int.toString_eq_repr]
      simp [Int.repr]
    rw [htext]
    exact .minus (digits_toDigits (k + 1)) (by rw [Nat.ofDigitChars_ten_toDigits]; rfl)

namespace IntegerRange

/-- Digits are read as the number they stand for if it is within the bound. -/
theorem magnitude_eq_ok {bound : Nat} {outside : IntegerFault} {acc k : Nat} {cs : List Char}
    (hacc : acc ≤ bound) : magnitude bound outside acc cs = .ok k ↔
      (∀ c ∈ cs, c.isDigit) ∧ Nat.ofDigitChars 10 cs acc = k ∧ k ≤ bound := by
  induction cs generalizing acc with
  | nil =>
    rw [magnitude_nil, Nat.ofDigitChars_nil]
    grind
  | cons c rest ih =>
    rw [magnitude, List.forall_mem_cons]
    cases hc : digit? c with
    | none => simp [digit?_eq_none.mp hc]
    | some d =>
      have hle := le_ofDigitChars rest (acc * 10 + d)
      rw [ofDigitChars_cons_digit hc]
      simp only [(digit?_eq_some.mp hc).1, true_and]
      split
      · next hbound => exact ih hbound
      · next hbound =>
        refine ⟨nofun, fun ⟨_, hk, hle'⟩ => absurd hle' ?_⟩
        omega

theorem digits_eq_ok {bound : Nat} {outside : IntegerFault} {k : Nat} {cs : List Char} :
    digits bound outside cs = .ok k ↔ Digits cs ∧ Nat.ofDigitChars 10 cs 0 = k ∧ k ≤ bound := by
  cases cs with
  | nil => exact ⟨nofun, fun h => absurd rfl h.1.ne_nil⟩
  | cons c rest =>
    rw [digits, magnitude_eq_ok (Nat.zero_le bound)]
    · exact and_congr_left' ⟨fun h => ⟨List.cons_ne_nil c rest, h⟩, Digits.isDigit⟩
    · exact nofun

/-- Digits are read without looking for a sign. -/
theorem read_digits (r : IntegerRange) {cs : List Char} (h : Digits cs) :
    r.read cs = (digits r.greatest .tooLarge cs).map Int.ofNat := by
  obtain ⟨c, rest, rfl⟩ := List.exists_cons_of_ne_nil h.ne_nil
  obtain ⟨hplus, hminus⟩ := h.ne_sign
  rw [read]
  · exact nofun
  · exact fun _ heq => hplus (List.cons.inj heq).1
  · exact fun _ heq => hminus (List.cons.inj heq).1

theorem map_digits_eq_ok {f : Nat → Int} {bound : Nat} {outside : IntegerFault} {cs : List Char}
    {i : Int} : (digits bound outside cs).map f = .ok i ↔
      Digits cs ∧ i = f (Nat.ofDigitChars 10 cs 0) ∧ Nat.ofDigitChars 10 cs 0 ≤ bound := by
  cases hk : digits bound outside cs with
  | error e =>
    refine ⟨nofun, fun ⟨hdigits, _, hle⟩ => ?_⟩
    rw [digits_eq_ok.mpr ⟨hdigits, rfl, hle⟩] at hk
    exact nomatch hk
  | ok k =>
    obtain ⟨hdigits, rfl, hle⟩ := digits_eq_ok.mp hk
    simp only [Except.map, Except.ok.injEq, hdigits, hle, true_and, and_true, eq_comm]

theorem read_minus {r : IntegerRange} (hr : r.least < 0) (cs : List Char) :
    r.read ('-' :: cs) = (digits r.least.natAbs .tooSmall cs).map (-Int.ofNat ·) := by
  rw [read, if_pos hr]
  cases digits r.least.natAbs .tooSmall cs <;> rfl

/-- What a range with negative numbers reads are the texts of its numbers. -/
theorem read_eq_ok {r : IntegerRange} (hr : r.least < 0) {cs : List Char} {i : Int} :
    r.read cs = .ok i ↔ Spells i cs ∧ r.least ≤ i ∧ i ≤ r.greatest := by
  have hleast := r.least_nonpos
  constructor
  · intro h
    have hcases := read.eq_def r cs
    split at hcases
    · exact nomatch hcases.symm.trans h
    · obtain ⟨hdigits, rfl, hle⟩ := map_digits_eq_ok.mp (hcases.symm.trans h)
      rw [Int.ofNat_eq_natCast]
      exact ⟨.plus hdigits rfl, by omega⟩
    · obtain ⟨hdigits, rfl, hle⟩ := map_digits_eq_ok.mp ((read_minus hr _).symm.trans h)
      rw [Int.ofNat_eq_natCast]
      exact ⟨.minus hdigits rfl, by omega⟩
    · obtain ⟨hdigits, rfl, hle⟩ := map_digits_eq_ok.mp (hcases.symm.trans h)
      rw [Int.ofNat_eq_natCast]
      exact ⟨.plain hdigits rfl, by omega⟩
  · rintro ⟨hspells, hi, hi'⟩
    cases hspells with
    | plain hdigits heq =>
      rw [read_digits r hdigits]
      exact map_digits_eq_ok.mpr ⟨hdigits, heq, by omega⟩
    | plus hdigits heq => exact map_digits_eq_ok.mpr ⟨hdigits, heq, by omega⟩
    | minus hdigits heq =>
      rw [read_minus hr]
      exact map_digits_eq_ok.mpr ⟨hdigits, heq, by omega⟩

end IntegerRange

/-- A text is read as a 64-bit integer if it is the text of that integer. -/
theorem int64?_eq_some {cs : List Char} {n : Int64} : int64? cs = some n ↔ Spells n.toInt cs := by
  have hread (i : Int) : IntegerRange.int64.read cs = .ok i ↔
      Spells i cs ∧ -2 ^ 63 ≤ i ∧ i < 2 ^ 63 := by
    have hgreatest : (IntegerRange.int64.greatest : Int) = 2 ^ 63 - 1 := rfl
    rw [IntegerRange.read_eq_ok (by decide), hgreatest, Int.le_sub_one_iff]
    rfl
  rw [int64?]
  constructor
  · intro h
    cases hi : IntegerRange.int64.read cs with
    | error e => rw [hi] at h; exact nomatch h
    | ok i =>
      rw [hi] at h
      obtain ⟨hspells, hle, hlt⟩ := (hread i).mp hi
      rw [← Option.some.inj h, Int64.toInt_ofInt_of_le hle hlt]
      exact hspells
  · intro h
    rw [(hread n.toInt).mpr ⟨h, n.le_toInt, n.toInt_lt⟩]
    exact congrArg some (Int64.ofInt_toInt n)

theorem int64?_toString (n : Int64) : int64? (toString n.toInt).toList = some n :=
  int64?_eq_some.mpr (spells_toString n.toInt)

namespace Decimal

/-- Digits that the mantissa has room for are read as the number they stand for. -/
theorem readOn_digits {cs : List Char} (hdigits : ∀ c ∈ cs, c.isDigit) (negative started : Bool)
    (hstarted : started ∨ cs ≠ []) {acc : Nat} (hroom : Nat.ofDigitChars 10 cs acc < Nat.pow 2 96) :
    readOn negative false started acc 0 cs =
      make? (negative && Nat.ofDigitChars 10 cs acc ≠ 0) (Nat.ofDigitChars 10 cs acc) 0 := by
  induction cs generalizing started acc with
  | nil =>
    rw [readOn, if_pos (hstarted.resolve_right (absurd rfl)), Nat.ofDigitChars_nil]
  | cons c rest ih =>
    have hc := (List.forall_mem_cons.mp hdigits).1
    have hdigit : digit? c = some (c.toNat - 48) := digit?_eq_some.mpr ⟨hc, rfl⟩
    rw [ofDigitChars_cons_digit hdigit] at hroom ⊢
    have hle := le_ofDigitChars rest (acc * 10 + (c.toNat - 48))
    rw [readOn, if_neg (by decide), hdigit]
    simp only
    rw [if_pos (by omega), if_neg (by decide)]
    exact ih (List.forall_mem_cons.mp hdigits).2 true (.inl rfl) hroom

theorem readPlain_digits {cs : List Char} (h : Digits cs) :
    readPlain cs = readOn false false false 0 0 cs := by
  obtain ⟨c, rest, rfl⟩ := List.exists_cons_of_ne_nil h.ne_nil
  obtain ⟨hplus, hminus⟩ := h.ne_sign
  rw [readPlain]
  · exact fun _ heq => hminus (List.cons.inj heq).1
  · exact fun _ heq => hplus (List.cons.inj heq).1

theorem make?_toInt (n : Int64) :
    make? (n.toInt < 0) n.toInt.natAbs 0 = some (ofInt64 n) := by
  rw [make?, dif_pos ⟨natAbs_toInt_lt n, Nat.zero_le 28⟩]
  simp only [ofInt64, Int64.lt_iff_toInt_lt]
  rfl

/-- The digits of a 64-bit integer are read with its sign. That of zero is lost. -/
theorem readOn_toInt {n : Int64} {cs : List Char} (h : Digits cs) (negative : Bool)
    (hn : n.toInt = if negative then -(Nat.ofDigitChars 10 cs 0 : Int)
      else Nat.ofDigitChars 10 cs 0) :
    readOn negative false false 0 0 cs = some (ofInt64 n) := by
  have hmantissa : Nat.ofDigitChars 10 cs 0 = n.toInt.natAbs := by grind
  have hnegative : (negative && decide (n.toInt.natAbs ≠ 0)) = decide (n.toInt < 0) := by
    cases negative with
    | false => rw [Bool.false_and, eq_comm, decide_eq_false_iff_not]; grind
    | true => rw [Bool.true_and]; exact decide_eq_decide.mpr (by grind)
  have hroom := natAbs_toInt_lt n
  rw [readOn_digits h.isDigit _ _ (.inr h.ne_nil) (hmantissa ▸ hroom), hmantissa, hnegative,
    make?_toInt]

/-- A 64-bit integer is the same number as a decimal. -/
theorem read?_of_int64? {cs : List Char} {n : Int64} (h : int64? cs = some n) :
    read? cs = some (ofInt64 n) := by
  suffices hplain : readPlain cs = some (ofInt64 n) by rw [read?, hplain, Option.some_or]
  cases int64?_eq_some.mp h with
  | plain hdigits hn => rw [readPlain_digits hdigits]; exact readOn_toInt hdigits false hn
  | plus hdigits hn => exact readOn_toInt hdigits false hn
  | minus hdigits hn => exact readOn_toInt hdigits true hn

theorem isDigit_of_isAlpha {c : Char} (h : c.isAlpha) : c.isDigit = false := by
  simp [Char.isAlpha, Char.isUpper, Char.isLower, Char.isDigit, UInt32.le_iff_toNat_le] at h ⊢
  omega

/-- A number does not begin with a letter, not even that of an exponent. -/
theorem read?_cons_of_isAlpha {c : Char} (h : c.isAlpha) (rest : List Char) :
    read? (c :: rest) = none := by
  have hletter (other : Char) (hother : other.isAlpha = false) : c ≠ other := by
    rintro rfl
    exact absurd h (by simp [hother])
  have hdigit : digit? c = none := digit?_eq_none.mpr (isDigit_of_isAlpha h)
  have hplain (cs : List Char) : readPlain (c :: cs) = none := by
    simp [readPlain, readOn, hdigit, hletter '-' rfl, hletter '+' rfl, hletter '.' rfl,
      hletter '_' rfl]
  have hscientific : readScientific (c :: rest) = none := by
    have hbase (front : Bool) (cs : List Char) :
        readPlain (if front then c :: cs else []) = none := by
      cases front
      · rfl
      · exact hplain cs
    rw [readScientific]
    simp only [List.span_eq_takeWhile_dropWhile, List.takeWhile_cons]
    split
    · rfl
    · next heq =>
      obtain ⟨rfl, -⟩ := Prod.mk.inj heq
      rw [hbase]
  rw [read?, hplain, hscientific, Option.or_none]

end Decimal

end Criteria.Number
