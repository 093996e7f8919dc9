import Criteria.Proofs.Comparison.OwnText

/-!
# Comparison of numbers

A clause compares numbers by their decimals. A number that has none, since it is too great, is
compared by its text and has no order, although numbers as such are still in an order. A literal
with a point has gone through a floating-point number before, so an integer is compared with what
came back of it.
-/
namespace Criteria

open Number (Decimal Decimals Double int64?)
open Text (trim)

namespace Value

/-- Integers and floating-point numbers. -/
def isNumber : Value → Bool
  | int _ | float _ => true
  | text _ | bool _ => false

theorem cases_of_isNumber {v : Value} (h : v.isNumber) :
    (∃ n, v = int n) ∨ ∃ x, v = float x := by
  cases v with
  | int n => exact .inl ⟨n, rfl⟩
  | float x => exact .inr ⟨x, rfl⟩
  | text s => exact absurd h Bool.false_ne_true
  | bool b => exact absurd h Bool.false_ne_true

def isBool : Value → Bool
  | bool _ => true
  | int _ | float _ | text _ => false

theorem exists_of_isBool {v : Value} (h : v.isBool) : ∃ b, v = bool b := by
  cases v with
  | bool b => exact ⟨b, rfl⟩
  | int n => exact absurd h Bool.false_ne_true
  | float x => exact absurd h Bool.false_ne_true
  | text s => exact absurd h Bool.false_ne_true

theorem not_isBool_of_isNumber {v : Value} (h : v.isNumber) : ¬v.isBool := by
  obtain ⟨n, rfl⟩ | ⟨x, rfl⟩ := cases_of_isNumber h
  · exact Bool.false_ne_true
  · exact Bool.false_ne_true

/-- The exact value of a number that is finite. -/
def toRat? : Value → Option ℚ
  | int n => some n.toInt
  | float x => x.toRat?
  | text _ | bool _ => none

/-- Whether the value is a number within the limit of decimals. -/
def WithinLimit (v : Value) : Prop := ∃ r, v.toRat? = some r ∧ |r| < 2 ^ 96

theorem withinLimit_int (n : Int64) : (int n).WithinLimit := by
  refine ⟨_, rfl, ?_⟩
  have hlow : (-2 ^ 63 : ℚ) ≤ n.toInt := by exact_mod_cast n.le_toInt
  have hhigh : (n.toInt : ℚ) < 2 ^ 63 := by exact_mod_cast n.toInt_lt
  exact abs_lt.mpr ⟨by linarith, by linarith⟩

section Decimals

variable [Decimals] {a b : Value}

/-- Exactly the numbers within the limit have a decimal. -/
theorem isSome_asDecimal_iff (hranged : Decimals.Ranged) (h : a.isNumber) :
    a.asDecimal.isSome ↔ a.WithinLimit := by
  obtain ⟨n, rfl⟩ | ⟨x, rfl⟩ := cases_of_isNumber h
  · exact iff_of_true rfl (withinLimit_int n)
  · exact hranged.isSome_ofDouble?_iff x

/-- No literal is a floating-point number that is none. -/
theorem ofLiteral_ne_nan (hranged : Decimals.Ranged) (literal : String) :
    ofLiteral literal ≠ float .nan := by
  rw [ofLiteral]
  split
  · simp
  · simp
  · next x _ _ hx =>
    obtain ⟨d, -, hd⟩ := Option.bind_eq_some_iff.mp hx
    obtain ⟨y, r, hy, hr⟩ := hranged.finite d
    obtain rfl := Option.some.inj (hd.symm.trans hy)
    rintro ⟨⟩
    contradiction
  · simp

/-- Numbers are in an order, whether they have decimals or not. -/
theorem exists_order? (ha : a.isNumber) (hb : b.isNumber) (ha' : a ≠ float .nan)
    (hb' : b ≠ float .nan) : ∃ o, order? a b = some o := by
  have hfloat {v : Value} (h : v.isNumber) (h' : v ≠ float .nan) :
      ∃ negative code hcode, v.asFloat = some (.signed negative code hcode) := by
    obtain ⟨n, rfl⟩ | ⟨x, rfl⟩ := cases_of_isNumber h
    · exact ⟨_, _, _, rfl⟩
    · cases x with
      | nan => exact absurd rfl h'
      | signed negative code hcode => exact ⟨_, _, _, rfl⟩
  obtain ⟨s, m, hm, hx⟩ := hfloat ha ha'
  obtain ⟨t, n, hn, hy⟩ := hfloat hb hb'
  have hnumber : ∃ o, numberOrder? a b = some o := by
    rw [numberOrder?]
    split
    · exact ⟨_, rfl⟩
    · rw [hx, hy]
      exact ⟨_, rfl⟩
  obtain ⟨m, rfl⟩ | ⟨x, rfl⟩ := cases_of_isNumber ha <;>
    obtain ⟨n, rfl⟩ | ⟨y, rfl⟩ := cases_of_isNumber hb
  · exact ⟨_, rfl⟩
  all_goals exact hnumber

end Decimals

end Value

namespace Comparison

section Decimals

variable [Decimals] {c : Clause} {observed expected : Value}

/-- Two values that have decimals and are no truth values are compared in some order. It is the
order of the values if they are numbers, where integers are in order without their decimals. -/
theorem exists_values_of_decimals (hbool : ¬(observed.isBool ∨ expected.isBool))
    (hobserved : observed.asDecimal.isSome) (hexpected : expected.asDecimal.isSome) :
    ∃ o, (observed.isNumber → expected.isNumber → observed.order? expected = some o) ∧
      ∀ c, values c observed expected = .answer (holds c.operator o) := by
  obtain ⟨x, hx⟩ := Option.isSome_iff_exists.mp hobserved
  obtain ⟨y, hy⟩ := Option.isSome_iff_exists.mp hexpected
  by_cases hints : ∃ m n, observed = .int m ∧ expected = .int n
  · obtain ⟨m, n, rfl, rfl⟩ := hints
    exact ⟨compare m.toInt n.toInt, fun _ _ => rfl, fun _ => rfl⟩
  have hnumber : observed.numberOrder? expected = some (Decimals.order x y) := by
    rw [Value.numberOrder?, hx, hy]
  refine ⟨Decimals.order x y, fun ha hb => ?_, fun c => ?_⟩
  · obtain ⟨m, rfl⟩ | ⟨r, rfl⟩ := Value.cases_of_isNumber ha <;>
      obtain ⟨n, rfl⟩ | ⟨r', rfl⟩ := Value.cases_of_isNumber hb
    · exact absurd ⟨m, n, rfl, rfl⟩ hints
    all_goals exact hnumber
  · rw [values.eq_def]
    split
    · exact absurd (.inl rfl) hbool
    · exact absurd (.inr rfl) hbool
    · exact absurd ⟨_, _, rfl, rfl⟩ hints
    · simp only [hx, hy]

/-- Without truth values and two decimals the texts are compared. -/
theorem values_of_no_decimals (hbool : ¬(observed.isBool ∨ expected.isBool))
    (h : ¬(observed.asDecimal.isSome ∧ expected.asDecimal.isSome)) :
    values c observed expected = ofText c.operator observed.asText expected.asText := by
  have hnone : ∀ x y, observed.asDecimal = some x → expected.asDecimal ≠ some y :=
    fun x y hx hy => h ⟨Option.isSome_iff_exists.mpr ⟨x, hx⟩, Option.isSome_iff_exists.mpr ⟨y, hy⟩⟩
  rw [values.eq_def]
  split
  · exact absurd (.inl rfl) hbool
  · exact absurd (.inr rfl) hbool
  · exact absurd ⟨rfl, rfl⟩ h
  · split
    · next x y hx hy => exact absurd hy (hnone x y hx)
    · rfl

end Decimals

/-- Texts have no order, so some operator does not hold of them as of values that have one. -/
theorem exists_ofText_ne (o : Ordering) :
    ∃ op : Comparator, ∀ s t, (ofText (some op) s t).outcome ≠ .answer (op.holds o) := by
  have hne : Outcome.answer false ≠ .answer true := by decide
  cases o with
  | lt => exact ⟨.less, fun _ _ => hne⟩
  | eq => exact ⟨.lessEqual, fun _ _ => hne⟩
  | gt => exact ⟨.greater, fun _ _ => hne⟩

/-- Numbers are compared in their order if they are within the limit of decimals. Otherwise their
texts are compared, so that some operator gives another answer than their order. -/
theorem ofClause_numbers [Decimals] (hranged : Decimals.Ranged) {c : Clause} {observed : Value}
    (hobserved : observed.isNumber) (hnan : observed ≠ .float .nan)
    (hliteral : c.typedValue.isNumber) :
    ∃ o, observed.order? c.typedValue = some o ∧
      (observed.WithinLimit ∧ c.typedValue.WithinLimit → ∀ op : Comparator,
        ofClause { c with operator := some op } observed = .answer (op.holds o)) ∧
      (¬(observed.WithinLimit ∧ c.typedValue.WithinLimit) →
        (∀ op : Comparator, ofClause { c with operator := some op } observed =
          ofText (some op) observed.asText c.typedValue.asText) ∧
        ∃ op : Comparator, (ofClause { c with operator := some op } observed).outcome ≠
          .answer (op.holds o)) := by
  have hclause (op : Comparator) : ofClause { c with operator := some op } observed =
      values { c with operator := some op } observed c.typedValue := rfl
  have hbool : ¬(observed.isBool ∨ c.typedValue.isBool) := fun h =>
    h.elim (Value.not_isBool_of_isNumber hobserved) (Value.not_isBool_of_isNumber hliteral)
  rw [← Value.isSome_asDecimal_iff hranged hobserved, ← Value.isSome_asDecimal_iff hranged hliteral]
  by_cases hdecimals : observed.asDecimal.isSome ∧ c.typedValue.asDecimal.isSome
  · obtain ⟨o, ho, hvalues⟩ := exists_values_of_decimals hbool hdecimals.1 hdecimals.2
    exact ⟨o, ho hobserved hliteral, fun _ op => (hclause op).trans (hvalues _),
      fun h => absurd hdecimals h⟩
  · obtain ⟨o, ho⟩ := Value.exists_order? hobserved hliteral hnan
      (Value.ofLiteral_ne_nan hranged c.value)
    have htext (op : Comparator) : ofClause { c with operator := some op } observed =
        ofText (some op) observed.asText c.typedValue.asText :=
      (hclause op).trans (values_of_no_decimals hbool hdecimals)
    obtain ⟨op, hop⟩ := exists_ofText_ne o
    exact ⟨o, ho, fun h => absurd h hdecimals, fun _ => ⟨htext, op, by rw [htext]; exact hop _ _⟩⟩

/-- An integer and a literal with a point. -/
theorem ofClause_numbers_three :
    let c : Clause := { keyword := "Zone", kind := .call .quantity, value := "2.5" }
    (Decimals.Ranged ∧ (Value.int 3).isNumber ∧ Value.int 3 ≠ .float .nan ∧ c.typedValue.isNumber) ∧
      ∀ op : Comparator,
        ofClause { c with operator := some op } (.int 3) = .answer (op.holds .gt) := by
  intro c
  have hobserved : (Value.int 3).isNumber := rfl
  have hliteral : c.typedValue.isNumber := by decide +kernel
  have hlimit : c.typedValue.WithinLimit := ⟨5 / 2, by decide +kernel, by norm_num [abs_lt]⟩
  obtain ⟨o, ho, hholds, -⟩ := ofClause_numbers Decimal.ranged hobserved nofun hliteral
  have horder : (Value.int 3).order? c.typedValue = some .gt := by decide +kernel
  obtain rfl := Option.some.inj (horder.symm.trans ho)
  exact ⟨⟨Decimal.ranged, hobserved, nofun, hliteral⟩, hholds ⟨Value.withinLimit_int 3, hlimit⟩⟩

/-- A number beyond the limit is greater than the literal, but is not found to be. -/
theorem not_ofClause_numbers :
    let c : Clause := { keyword := "Zone", kind := .call .quantity, value := "1.5" }
    let observed : Value := .float (Double.nearest false (10 ^ 30))
    (observed.isNumber ∧ observed ≠ .float .nan ∧ c.typedValue.isNumber) ∧
      ¬∃ o, observed.order? c.typedValue = some o ∧ ∀ op : Comparator,
        (ofClause { c with operator := some op } observed).outcome = .answer (op.holds o) := by
  intro c observed
  have horder : observed.order? c.typedValue = some .gt := by decide +kernel
  have hgreater : (ofClause { c with operator := some .greater } observed).outcome =
      .answer false := by decide +kernel
  refine ⟨by decide +kernel, ?_⟩
  rintro ⟨o, ho, hholds⟩
  obtain rfl := Option.some.inj (horder.symm.trans ho)
  exact absurd (hgreater.symm.trans (hholds .greater)) (by decide)

/-- An integer is compared with what comes back of a literal with a point. The answers are those for
the literal itself if it keeps its order with the integer, as all literals of thirteen digits do. -/
theorem ofClause_int_decimal [Decimals] {value : Decimals.Carrier → ℚ}
    (hlaws : Decimals.Lawful value) {c : Clause} {d : Decimals.Carrier} (n : Int64)
    (hint : int64? (trim c.value.toList) = none)
    (hread : Decimals.read? (trim c.value.toList) = some d) (hlt : |value d| < 2 ^ 63) :
    ∃ x e, Decimals.toDouble? d = some x ∧ Decimals.ofDouble? x = some e ∧
      (∀ op : Comparator, ofClause { c with operator := some op } (.int n) =
        .answer (op.holds (compare (n.toInt : ℚ) (value e)))) ∧
      (Decimals.Short (value d) ∨ Decimals.KeepsOrder (value d) n.toInt → ∀ op : Comparator,
        ofClause { c with operator := some op } (.int n) =
          .answer (op.holds (compare (n.toInt : ℚ) (value d)))) := by
  obtain ⟨x, e, hx, he⟩ := hlaws.exists_back (hlt.trans (by norm_num))
  have hliteral : c.typedValue = .float x := by
    rw [Clause.typedValue, Value.ofLiteral_of_read? hlaws.toReads hread hint, hx]
    rfl
  have hanswer (op : Comparator) : ofClause { c with operator := some op } (.int n) =
      .answer (op.holds (compare (n.toInt : ℚ) (value e))) :=
    calc ofClause { c with operator := some op } (.int n)
        = values { c with operator := some op } (.int n) (.float x) := by
          rw [← hliteral]
          rfl
      _ = .answer (op.holds (Decimals.order (Decimals.ofInt64 n) e)) := by
          simp only [values, Value.asDecimal, he]
          rfl
      _ = .answer (op.holds (compare (n.toInt : ℚ) (value e))) := by
          rw [hlaws.order_eq, hlaws.value_ofInt64]
  refine ⟨x, e, hx, he, hanswer, fun h op => ?_⟩
  have hkeeps : Decimals.KeepsOrder (value d) n.toInt := h.elim (·.keepsOrder _) id
  rw [hanswer, hlaws.compare_back hx he hkeeps]

/-- A literal that differs from an integer in its thirteenth digit. -/
theorem ofClause_two_decimal :
    let c : Clause := { keyword := "Zone", kind := .call .quantity, value := "2.000000000001" }
    let d : Decimal := ⟨false, 2000000000001, 12, by decide, by decide⟩
    (Decimals.Lawful Decimal.toRat ∧ int64? (trim c.value.toList) = none ∧
      Decimal.read? (trim c.value.toList) = some d ∧ |d.toRat| < 2 ^ 63) ∧
      ∀ op : Comparator,
        ofClause { c with operator := some op } (.int 2) = .answer (op.holds .lt) := by
  intro c d
  have hint : int64? (trim c.value.toList) = none := by decide +kernel
  have hread : Decimal.read? (trim c.value.toList) = some d := by decide +kernel
  have hlt : |d.toRat| < 2 ^ 63 := by decide +kernel
  have hcompare : compare ((2 : Int64).toInt : ℚ) d.toRat = .lt := by decide +kernel
  have hshort : Decimals.Short d.toRat :=
    ⟨2000000000001, 12, by decide, by decide, by decide +kernel⟩
  obtain ⟨x, e, -, -, -, hexact⟩ := ofClause_int_decimal Decimal.lawful 2 hint hread hlt
  refine ⟨⟨Decimal.lawful, hint, hread, hlt⟩, fun op => ?_⟩
  rw [hexact (.inl hshort), hcompare]

/-- A whole number of 54 binary digits is not equal to itself with a place. -/
theorem not_ofClause_int_decimal :
    let n : Int64 := 9007199254740993
    let c : Clause := { keyword := "Zone", kind := .call .quantity, value := "9007199254740993.0" }
    let d : Decimal := ⟨false, 90071992547409930, 1, by decide, by decide⟩
    (int64? (trim c.value.toList) = none ∧ Decimal.read? (trim c.value.toList) = some d ∧
      d.text = c.value ∧ |d.toRat| < 2 ^ 63) ∧
      ¬∀ op : Comparator, (ofClause { c with operator := some op } (.int n)).outcome =
        .answer (op.holds (compare (n.toInt : ℚ) d.toRat)) := by
  intro n c d
  refine ⟨by decide +kernel, fun h => ?_⟩
  exact absurd (h .equal) (by decide +kernel)

end Comparison

end Criteria
