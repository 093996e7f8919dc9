import Criteria.Proofs.Comparison.Numbers

/-!
# Operators that agree

About one value and one literal the operators do not contradict each other. The two alone decide
whether all operators report the same error, or answer as of values that are in an order, or as of
values that are only the same or not. So no operator compares as numbers what another one compares
as texts.
-/
namespace Criteria.Comparison

open Number (Decimals)

/-- A truth value, and a value beside it that cannot be read as one. -/
structure Incomparable (a b : Value) : Prop where
  bool : a.isBool ∨ b.isBool
  unread : a.asBool = none ∨ b.asBool = none

/-- Two values that have decimals and are no truth values. -/
structure Numeric [Decimals] (a b : Value) : Prop where
  notBool : ¬(a.isBool ∨ b.isBool)
  decimals : a.asDecimal.isSome ∧ b.asDecimal.isSome

/-- Answers about values in an order: the first one is less, equal or greater, and the other three
operators each deny one of these. -/
structure InOrder (answer : Comparator → Bool) : Prop where
  one : [Comparator.less, .equal, .greater].countP answer = 1
  notEqual : answer .notEqual = !answer .equal
  lessEqual : answer .lessEqual = !answer .greater
  greaterEqual : answer .greaterEqual = !answer .less

/-- Answers about values that are only the same or not. -/
structure WithoutOrder (answer : Comparator → Bool) : Prop where
  notEqual : answer .notEqual = !answer .equal
  others : ∀ op ∈ [Comparator.less, .lessEqual, .greater, .greaterEqual], answer op = false

theorem inOrder_holds (o : Ordering) : InOrder (·.holds o) := by
  cases o with
  | lt => exact ⟨rfl, rfl, rfl, rfl⟩
  | eq => exact ⟨rfl, rfl, rfl, rfl⟩
  | gt => exact ⟨rfl, rfl, rfl, rfl⟩

/-- What each operator answers about values without an order. -/
def sameness (same : Bool) : Comparator → Bool
  | .equal => same
  | .notEqual => !same
  | .less | .lessEqual | .greater | .greaterEqual => false

theorem withoutOrder_sameness (same : Bool) : WithoutOrder (sameness same) :=
  ⟨rfl, by simp [sameness]⟩

theorem outcome_unordered (event : Operator → Event) (op : Comparator) (same : Bool) :
    (unordered event (some op) same).outcome = .answer (sameness same op) := by
  cases op <;> rfl

section Values

variable [Decimals] {observed expected : Value}

/-- With a truth value on one side, both sides are read as truth values. -/
theorem values_of_isBool (c : Clause) (h : observed.isBool ∨ expected.isBool) :
    values c observed expected = match observed.asBool, expected.asBool with
      | some a, some b => ofBool c.operator a b
      | _, _ => .error (.incomparable c.method observed.asText c.value) := by
  obtain h | h := h
  · obtain ⟨a, rfl⟩ := Value.exists_of_isBool h
    rfl
  · obtain ⟨b, rfl⟩ := Value.exists_of_isBool h
    cases observed <;> rfl

theorem values_of_incomparable (c : Clause) (h : Incomparable observed expected) :
    values c observed expected = .error (.incomparable c.method observed.asText c.value) := by
  rw [values_of_isBool c h.bool]
  obtain hnone | hnone := h.unread
  · rw [hnone]
  · rw [hnone]
    cases observed.asBool <;> rfl

theorem values_of_numeric (h : Numeric observed expected) :
    ∃ answer, InOrder answer ∧ ∀ (c : Clause) (op : Comparator),
      values { c with operator := some op } observed expected = .answer (answer op) := by
  obtain ⟨o, -, hvalues⟩ := exists_values_of_decimals h.notBool h.decimals.1 h.decimals.2
  exact ⟨(·.holds o), inOrder_holds o, fun c op => hvalues { c with operator := some op }⟩

/-- Truth values and texts have no order. -/
theorem values_of_neither (herror : ¬Incomparable observed expected)
    (hnumeric : ¬Numeric observed expected) :
    ∃ answer, WithoutOrder answer ∧ ∀ (c : Clause) (op : Comparator),
      (values { c with operator := some op } observed expected).outcome = .answer (answer op) := by
  by_cases hbool : observed.isBool ∨ expected.isBool
  · cases ha : observed.asBool with
    | none => exact absurd ⟨hbool, .inl ha⟩ herror
    | some a =>
      cases hb : expected.asBool with
      | none => exact absurd ⟨hbool, .inr hb⟩ herror
      | some b =>
        refine ⟨sameness (a == b), withoutOrder_sameness _, fun c op => ?_⟩
        rw [values_of_isBool _ hbool, ha, hb]
        exact outcome_unordered .unorderedBool op _
  · refine ⟨sameness (Text.lowercase observed.asText == Text.lowercase expected.asText),
      withoutOrder_sameness _, fun c op => ?_⟩
    rw [values_of_no_decimals hbool fun h => hnumeric ⟨hbool, h⟩]
    exact outcome_unordered .unorderedText op _

end Values

/-- The operators all report one error if a truth value meets a value that is not to be read as one,
all answer as of values in an order if both have decimals and neither is a truth value, and in all
other cases answer as of values without an order. Nothing else in the clause matters. -/
theorem ofClause_coherent [Decimals] (observed : Value) (literal : String) :
    let expected := Value.ofLiteral literal
    let report (c : Clause) (op : Comparator) :=
      ofClause { c with operator := some op, value := literal } observed
    (Incomparable observed expected ∧
      ∀ c op, report c op = .error (.incomparable c.method observed.asText literal)) ∨
    (Numeric observed expected ∧
      ∃ answer, InOrder answer ∧ ∀ c op, report c op = .answer (answer op)) ∨
    (¬Incomparable observed expected ∧ ¬Numeric observed expected ∧
      ∃ answer, WithoutOrder answer ∧ ∀ c op, (report c op).outcome = .answer (answer op)) := by
  intro expected report
  have hreport (c : Clause) (op : Comparator) : report c op =
      values { c with operator := some op, value := literal } observed expected := rfl
  by_cases herror : Incomparable observed expected
  · refine .inl ⟨herror, fun c op => ?_⟩
    rw [hreport, values_of_incomparable _ herror]
  by_cases hnumeric : Numeric observed expected
  · obtain ⟨answer, hanswer, hvalues⟩ := values_of_numeric hnumeric
    refine .inr (.inl ⟨hnumeric, answer, hanswer, fun c op => ?_⟩)
    exact (hreport c op).trans (hvalues { c with value := literal } op)
  · obtain ⟨answer, hanswer, hvalues⟩ := values_of_neither herror hnumeric
    refine .inr (.inr ⟨herror, hnumeric, answer, hanswer, fun c op => ?_⟩)
    rw [hreport]
    exact hvalues { c with value := literal } op

end Criteria.Comparison
