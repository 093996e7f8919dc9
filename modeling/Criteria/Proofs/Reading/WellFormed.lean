import Criteria.Number.Limited
import Criteria.Proofs.Reading.Building
import Criteria.Registry

/-!
# What all expressions are like

Every expression that is read, and every one inside it, has the shape that its kind asks for. What
is malformed is dropped as a whole, so nothing has only a part of its shape. This holds of any
tokens.
-/
namespace Criteria

open Text (eqIgnoringAsciiCase)

/-- An expression has the shape that its kind asks for, and calls what its name stands for. -/
structure Expr.WellFormed (v : Vocabulary) (e : Expr) : Prop where
  kind : e.clause.kind ≠ .unknown
  join : e.clause.join = .and ∨ e.clause.join = .or
  group : e.clause.kind = .group →
    e.children ≠ [] ∧ e.clause.method = "" ∧ e.clause.params = [] ∧ e.clause.value = "" ∧
      e.clause.operator = none
  leaf : e.clause.kind ≠ .group → e.children = []
  literal : e.clause.kind = .literal →
    (eqIgnoringAsciiCase e.clause.keyword "true" = true ∨
        eqIgnoringAsciiCase e.clause.keyword "false" = true) ∧
      e.clause.value = e.clause.keyword ∧ e.clause.method = "GetBoolean" ∧
      e.clause.operator = none ∧ e.clause.params = []
  name (kind : PredicateKind) : e.clause.kind = .call kind →
    v.classify e.clause.keyword = some (kind, e.clause.method)
  compared : e.clause.kind = .call .quantity ∨ e.clause.kind = .call .method →
    e.clause.operator ≠ none ∧ Symbol.ofToken? e.clause.value = none ∧
      v.isKnown e.clause.value = false
  uncompared : e.clause.kind = .call .flag ∨ e.clause.kind = .call .query →
    e.clause.operator = none ∧ e.clause.value = ""
  scope : e.clause.kind = .call .scope → e.clause.operator = none → e.clause.value = ""
  bare : e.clause.kind = .call .quantity ∨ e.clause.kind = .call .flag → e.clause.params = []
  params : ∀ p ∈ e.clause.params, Symbol.ofToken? p = none

namespace Value

theorem eqIgnoringAsciiCase_of_bool? {s : String} (h : (bool? s).isSome = true) :
    eqIgnoringAsciiCase s "true" = true ∨ eqIgnoringAsciiCase s "false" = true := by
  rw [bool?] at h
  split at h
  · next ht => exact Or.inl ht
  · split at h
    · next hf => exact Or.inr hf
    · contradiction

end Value

namespace Piece

variable {v : Vocabulary} {kind : PredicateKind}

/-- The arguments of a clause are words, and some kinds have none. -/
theorem argumentsFor_params {ts params : List String} {n : Nat}
    (h : argumentsFor kind ts = .ok (params, n)) :
    (∀ p ∈ params, Symbol.ofToken? p = none) ∧
      (kind = .quantity ∨ kind = .flag → params = []) := by
  rcases argumentsFor_eq_ok h with ⟨-, rfl, -⟩ | ⟨hreads, o, c, rest, -, -, hwords, -, -⟩
  · exact ⟨by simp, fun _ => rfl⟩
  · refine ⟨hwords, ?_⟩
    rintro (rfl | rfl) <;> contradiction

/-- The comparison of a clause is a comparator with a literal or nothing, as its kind asks. -/
theorem comparisonFor_shape {ts : List String} {operator : Operator} {value : String} {n : Nat}
    (h : comparisonFor v kind ts = .ok (operator, value, n)) :
    (kind = .quantity ∨ kind = .method →
        operator ≠ none ∧ Symbol.ofToken? value = none ∧ v.isKnown value = false) ∧
      (kind = .flag ∨ kind = .query → operator = none ∧ value = "") ∧
      (operator = none → value = "") := by
  rcases comparisonFor_eq_ok h with ⟨hreads, rfl, rfl, -⟩ |
    ⟨hreads, c, t, rest, rfl, -, -, hword, hunknown, -⟩
  · refine ⟨?_, fun _ => ⟨rfl, rfl⟩, fun _ => rfl⟩
    rintro (rfl | rfl) <;> contradiction
  · refine ⟨fun _ => ⟨by simp, hword, hunknown⟩, ?_, by simp⟩
    rintro (rfl | rfl) <;> contradiction

end Piece

namespace Expr

variable {v : Vocabulary}

theorem WellFormed.ofGroup {j : Join} (hj : j = .and ∨ j = .or) (negated : Bool) {es : List Expr}
    (hne : es ≠ []) : (Expr.group j negated es).WellFormed v where
  kind := by simp [Expr.group, Clause.group]
  join := hj
  group _ := ⟨hne, rfl, rfl, rfl, rfl⟩
  leaf h := absurd rfl h
  literal h := by contradiction
  name _ h := by contradiction
  compared h := by rcases h with h | h <;> contradiction
  uncompared h := by rcases h with h | h <;> contradiction
  scope h := by contradiction
  bare h := by rcases h with h | h <;> contradiction
  params := by simp [Expr.group, Clause.group]

theorem WellFormed.ofLiteral {t : String} (ht : (Value.bool? t).isSome = true) {j : Join}
    (hj : j = .and ∨ j = .or) (negated : Bool) :
    (Expr.leaf { Piece.literal t with join := j, negated }).WellFormed v where
  kind := by simp [Expr.leaf, Piece.literal]
  join := hj
  group h := by contradiction
  leaf _ := rfl
  literal _ := ⟨Value.eqIgnoringAsciiCase_of_bool? ht, rfl, rfl, rfl, rfl⟩
  name _ h := by contradiction
  compared h := by rcases h with h | h <;> contradiction
  uncompared h := by rcases h with h | h <;> contradiction
  scope h := by contradiction
  bare h := by rcases h with h | h <;> contradiction
  params := by simp [Expr.leaf, Piece.literal]

/-- A call is well-formed if its parts are read as its kind asks. -/
theorem WellFormed.ofCall {keyword method value : String} {kind : PredicateKind}
    {params ts : List String} {n m : Nat} {operator : Operator}
    (hname : v.classify keyword = some (kind, method))
    (ha : Piece.argumentsFor kind ts = .ok (params, n))
    (hc : Piece.comparisonFor v kind (ts.drop n) = .ok (operator, value, m)) {j : Join}
    (hj : j = .and ∨ j = .or) (negated : Bool) :
    WellFormed v (.leaf
      { keyword, kind := .call kind, join := j, negated, method, operator, value, params }) := by
  obtain ⟨hwords, hbare⟩ := Piece.argumentsFor_params ha
  obtain ⟨hcompared, huncompared, hscope⟩ := Piece.comparisonFor_shape hc
  exact
    { kind := by simp [Expr.leaf]
      join := hj
      group := fun h => by contradiction
      leaf := fun _ => rfl
      literal := fun h => by contradiction
      name := fun k h => by
        obtain rfl : kind = k := by simpa [Expr.leaf] using h
        exact hname
      compared := fun h => hcompared (by simpa [Expr.leaf] using h)
      uncompared := fun h => huncompared (by simpa [Expr.leaf] using h)
      scope := fun _ => hscope
      bare := fun h => hbare (by simpa [Expr.leaf] using h)
      params := hwords }

/-- A piece that is made into something well-formed, whatever waits for it. -/
def Makes (v : Vocabulary) : Piece → Prop
  | .join j => j = .and ∨ j = .or
  | .clause c => ∀ j, j = .and ∨ j = .or → ∀ negated,
      (Expr.leaf { c with join := j, negated }).WellFormed v
  | _ => True

theorem makes_first (t : String) (ts : List String) : Makes v (Piece.first v t ts).1 := by
  cases hp : (Piece.first v t ts).1 with
  | join j =>
    cases j with
    | and => exact Or.inl rfl
    | or => exact Or.inr rfl
    | not => exact absurd hp (Piece.first_ne_join_not t ts)
  | clause c =>
    intro j hj negated
    rcases Piece.first_eq_clause hp with ⟨ht, rfl⟩ | ⟨kind, method, params, n, operator, value, m,
      -, hname, ha, hc, rfl⟩
    · exact .ofLiteral ht hj negated
    · exact .ofCall hname ha hc hj negated
  | _ => trivial

theorem makes_scan {ts : List String} : ∀ p ∈ Piece.scan v ts, Makes v p.1 :=
  Piece.forall_mem_scan (Q := fun _ => True) (fun t ts _ => makes_first t ts) (by simp)

theorem builds_wellFormed (v : Vocabulary) :
    Reading.Builds (Makes v) (fun j _ => j = .and ∨ j = .or) (WellFormed v) where
  idle := Or.inl rfl
  join hj _ _ _ := hj
  negation _ _ _ hj := hj
  leaf hc _ _ hj := hc _ hj _
  group hj hne _ := .ofGroup hj _ hne

/-- What is read by any vocabulary is well-formed, and so is what stands inside it. -/
theorem wellFormed_of_mem {ts : List String} {e : Expr} (he : e ∈ listNodes (parseTokens v ts)) :
    e.WellFormed v :=
  (builds_wellFormed v).forall_nodes makes_scan e he

end Expr

namespace Registry

variable {ω : Type}

/-- All expressions of any tokens are well-formed, and so are all inside them. -/
theorem parse_wellFormed (r : Registry ω) (ts : List String) :
    ∀ e ∈ Expr.listNodes (parseTokens r.vocabulary ts), e.WellFormed r.vocabulary :=
  fun _ he => Expr.wellFormed_of_mem he

theorem parse_wellFormed_nested :
    let r : Registry Unit := [⟨"Level", .quantity, .host, fun _ _ => .answer true⟩,
      ⟨"Has", .query, .host, fun _ _ => .answer true⟩,
      ⟨"Facts", .scope, .facts, fun _ _ => .answer true⟩].foldl register initial
    let ts := ["Level", ")", "or", "(", "Has", "(", "<", "not", "(", "facts.x", "(", "a", "", ")",
      "<", "Level", "level", "!=", "", "Level", "==", ")", ")", ")"]
    let level : Clause :=
      { keyword := "level", kind := .call .quantity, method := "Level", operator := some .notEqual }
    ∃ e ∈ Expr.listNodes (parseTokens r.vocabulary ts),
      e.clause = level ∧ e.WellFormed r.vocabulary := by
  intro r ts level
  have hnode : ∃ e ∈ Expr.listNodes (parseTokens r.vocabulary ts), e.clause = level := by
    decide +kernel
  obtain ⟨e, he, hclause⟩ := hnode
  exact ⟨e, he, hclause, parse_wellFormed r ts e he⟩

end Registry

end Criteria
