import Criteria.Proofs.Evaluation.Meaning
import Criteria.Proofs.Reading.Concatenation
import Mathlib.Algebra.Ring.Parity

/-!
# Negations in a row

A negation waits for the next clause or group, and several of them wait as one. So a clause or a
group is negated by the negations in front of it, but only once, however many there are.
-/
namespace Criteria

/-- Tokens that begin with a clause, or with a group that holds something. -/
inductive Headed (v : Vocabulary) : List String → Prop where
  | clause {t : String} {ts : List String} {c : Clause} :
      (Piece.first v t ts).1 = .clause c → Headed v (t :: ts)
  | group {ts rest : List String} :
      Balanced ts → parseTokens v ts ≠ [] → Headed v ("(" :: (ts ++ ")" :: rest))

/-- The expression with a negation in front of it, or with none. -/
def Expr.withNegation (negated : Bool) : Expr → Expr
  | node c es => node { c with negated } es

namespace Expr

@[simp] theorem clause_withNegation (negated : Bool) (e : Expr) :
    (e.withNegation negated).clause = { e.clause with negated } := by cases e; rfl

@[simp] theorem withNegation_withNegation (negated earlier : Bool) (e : Expr) :
    (e.withNegation earlier).withNegation negated = e.withNegation negated := by cases e; rfl

theorem withNegation_negated (e : Expr) : e.withNegation e.clause.negated = e := by cases e; rfl

end Expr

section Reading

open Reading (start readAll)

variable {v : Vocabulary} {nots ts : List String}

/-- All negations in a row wait as one. -/
theorem readAll_nots (hnots : ∀ t ∈ nots, Symbol.ofToken? t = some .not) (r : Reading) :
    r.readAll v (nots ++ ts) = readAll v { r with negated := r.negated || !nots.isEmpty } ts := by
  induction nots generalizing r with
  | nil => simp
  | cons t nots ih =>
    obtain ⟨ht, hnots⟩ := List.forall_mem_cons.mp hnots
    have hfirst : Piece.first v t (nots ++ ts) = (.negation, 0) := by rw [Piece.first, ht]
    rw [List.cons_append, Reading.readAll_cons, hfirst, List.drop_zero, Reading.step, ih hnots]
    simp

/-- What is read behind an expression is read as it is on its own. -/
theorem root_readAll_onto (e : Expr) (ts : List String) :
    ((start.onto [e]).readAll v ts).root = e :: parseTokens v ts :=
  congrArg Reading.root (Reading.readAll_onto [e] start ts)

/-- What stands first takes the negation that waits, and nothing behind it does. -/
theorem Headed.root_readAll (h : Headed v ts) :
    ∃ (e : Expr) (es : List Expr), e.clause.join = .and ∧ ∀ negated : Bool,
      (readAll v { start with negated } ts).root = e.withNegation negated :: es := by
  cases h with
  | @clause t ts c hc =>
    refine ⟨.leaf { c with join := .and }, parseTokens v (ts.drop (Piece.first v t ts).2), rfl,
      fun negated => ?_⟩
    rw [Reading.readAll_cons, hc]
    exact root_readAll_onto (.leaf { c with join := .and, negated }) _
  | @group ts rest hb hne =>
    refine ⟨.group .and false (parseTokens v ts), parseTokens v rest, rfl, fun negated => ?_⟩
    rw [Reading.readAll_group hb, if_neg (by simpa using hne)]
    exact root_readAll_onto (.group .and negated (parseTokens v ts)) rest

/-- A run of negations negates the clause or group behind it, and nothing else. -/
theorem Headed.parseTokens_nots (h : Headed v ts)
    (hnots : ∀ t ∈ nots, Symbol.ofToken? t = some .not) :
    ∃ (e : Expr) (es : List Expr), e.clause.join = .and ∧ e.clause.negated = false ∧
      parseTokens v ts = e :: es ∧
      parseTokens v (nots ++ ts) = e.withNegation (!nots.isEmpty) :: es := by
  obtain ⟨e, es, hjoin, hroot⟩ := h.root_readAll
  refine ⟨e.withNegation false, es, by simpa using hjoin, by simp, hroot false, ?_⟩
  rw [Reading.parseTokens_eq, readAll_nots hnots, Expr.withNegation_withNegation]
  exact hroot _

end Reading

/-- Every inversion changes a truth value, so the inverse of another one is reached by an odd number
of them just if both are the same. -/
theorem not_eq_iterate_not_iff (n : ℕ) (a b : Bool) :
    (!b) = not^[n] a ↔ (b = a ↔ Odd n) := by
  rcases n.even_or_odd with heven | hodd
  · have hodd : ¬Odd n := Nat.not_odd_iff_even.mpr heven
    rw [Bool.involutive_not.iterate_even heven, id, iff_false_right hodd, Bool.not_eq_eq_eq_not,
      ← Ne, Bool.eq_not]
  · rw [Bool.involutive_not.iterate_odd hodd, iff_true_right hodd, Bool.not_inj_iff]

namespace Evaluation

variable (ask : Clause → Dispatch)

/-- What is answered about an expression, before its own negation is looked at. -/
def answer : Expr → Bool
  | .node c es => if c.isGroup then (evaluate ask es).value else (ask c).isTrue

theorem value_evaluateExpr (e : Expr) :
    (evaluateExpr ask e).value = (answer ask e != e.clause.negated) := by
  cases e with
  | node c es =>
    rw [evaluateExpr, answer, Expr.clause_node, evaluate]
    by_cases hc : c.isGroup
    · rw [if_pos hc, if_pos hc]
    · rw [if_neg hc, if_neg hc]

end Evaluation

namespace Registry

variable {ω : Type}

/-- The answer about an expression is the same whether it is negated or not. -/
def Indifferent (r : Registry ω) (world : ω) (e : Expr) : Prop :=
  Evaluation.answer (r.dispatch world) (e.withNegation true) =
    Evaluation.answer (r.dispatch world) (e.withNegation false)

/-- About a group nobody is asked but for what is inside it. -/
theorem indifferent_of_isGroup (r : Registry ω) (world : ω) {e : Expr}
    (h : e.clause.isGroup = true) : r.Indifferent world e := by
  cases e with
  | node c es => exact (if_pos h).trans (if_pos h).symm

/-- No predicate looks at whether its clause is negated. -/
structure Blind (r : Registry ω) (world : ω) : Prop where
  entries : ∀ e ∈ r.entries, ∀ (c : Clause) (negated : Bool),
    (e.predicate world { c with negated }).outcome = (e.predicate world c).outcome
  bridge : ∀ b ∈ r.bridge?, ∀ (name : String) (c : Clause) (negated : Bool),
    (b.evaluate name world { c with negated }).outcome = (b.evaluate name world c).outcome

variable {r : Registry ω} {world : ω}

theorem Blind.isTrue_dispatch (h : r.Blind world) (c : Clause) (negated : Bool) :
    (r.dispatch world { c with negated }).isTrue = (r.dispatch world c).isTrue := by
  have hbridge : r.bridgeFor? { c with negated } = r.bridgeFor? c := rfl
  rw [dispatch, dispatch, hbridge]
  cases hentry : r.entry? c.method with
  | some e =>
    have he : e ∈ r.entries := List.mem_of_find?_eq_some hentry
    exact congrArg Outcome.isTrue (h.entries e he c negated)
  | none =>
    cases hfor : r.bridgeFor? c with
    | none => rfl
    | some b =>
      rw [bridgeFor?] at hfor
      split at hfor
      · have hb := (Option.filter_eq_some_iff.mp hfor).1
        exact congrArg Outcome.isTrue (h.bridge b hb c.method c negated)
      · exact nomatch hfor

theorem Blind.indifferent (h : r.Blind world) (e : Expr) : r.Indifferent world e := by
  cases e with
  | node c es =>
    by_cases hc : c.isGroup
    · exact r.indifferent_of_isGroup world hc
    · exact (if_neg hc).trans ((h.isTrue_dispatch c true).trans
        ((h.isTrue_dispatch c false).symm.trans (if_neg hc).symm))

/-- A predicate that does not look at negations may be added. -/
theorem Blind.register (h : r.Blind world) {e : Entry ω} (he : ∀ (c : Clause) (negated : Bool),
    (e.predicate world { c with negated }).outcome = (e.predicate world c).outcome) :
    (r.register e).Blind world := by
  rw [Registry.register]
  split
  · refine ⟨fun other hother => ?_, h.bridge⟩
    obtain ⟨old, hold, rfl⟩ := List.mem_map.mp hother
    split
    · exact he
    · exact h.entries old hold
  · refine ⟨fun other hother => ?_, h.bridge⟩
    rcases List.mem_append.mp hother with hold | hnew
    · exact h.entries other hold
    · exact List.mem_singleton.mp hnew ▸ he

/-- The predicate of the literals only looks at the literal. -/
theorem blind_initial [Number.Decimals] (world : ω) : (initial : Registry ω).Blind world where
  entries e he c negated := by
    obtain rfl := List.mem_singleton.mp he
    rfl
  bridge b hb := nomatch hb

/-- Negations in front of one clause or one group make it a negated one, as a single negation does.
Unless its predicate looks at that, they invert its value once. So each of them inverts it just if
their number is odd or there are none; where the predicate does look at it, just if their number is
even. -/
theorem evaluate_nots (r : Registry ω) (world : ω) {nots ts : List String}
    (hnots : ∀ t ∈ nots, Symbol.ofToken? t = some .not) (hhead : Headed r.vocabulary ts)
    (hone : (parseTokens r.vocabulary ts).length = 1) :
    let value := fun ts => (r.evaluate world (parseTokens r.vocabulary ts)).value
    ∃ e, parseTokens r.vocabulary ts = [e] ∧
      parseTokens r.vocabulary (nots ++ ts) = [e.withNegation (!nots.isEmpty)] ∧
      (r.Indifferent world e → value (nots ++ ts) = (value ts != !nots.isEmpty)) ∧
      (value (nots ++ ts) = not^[nots.length] (value ts) ↔
        nots = [] ∨ (r.Indifferent world e ↔ Odd nots.length)) := by
  intro value
  obtain ⟨e, es, hjoin, hnegated, hplain, hrun⟩ := hhead.parseTokens_nots hnots
  obtain rfl : es = [] := by simpa [hplain] using hone
  refine ⟨e, hplain, hrun, ?_⟩
  have hsame : e.withNegation false = e := hnegated ▸ e.withNegation_negated
  have hvalue : ∀ negated, (r.evaluate world [e.withNegation negated]).value =
      (Evaluation.answer (r.dispatch world) (e.withNegation negated) != negated) := by
    intro negated
    rw [evaluate, Evaluation.evaluate_singleton _ (by simpa using hjoin),
      Evaluation.value_evaluateExpr, Expr.clause_withNegation]
  have hplain' : value ts = Evaluation.answer (r.dispatch world) (e.withNegation false) := by
    rw [← Bool.bne_false (Evaluation.answer _ _), ← hvalue, hsame, ← hplain]
  have hrun' : value (nots ++ ts) =
      (Evaluation.answer (r.dispatch world) (e.withNegation (!nots.isEmpty)) != !nots.isEmpty) := by
    rw [← hvalue, ← hrun]
  -- With a negation or more the same flag is set, so only their number is left to be compared.
  rw [hplain', hrun', Indifferent]
  cases nots with
  | nil => simp
  | cons t nots =>
    simp only [List.isEmpty_cons, Bool.not_false, Bool.bne_true]
    refine ⟨fun h => by rw [h], ?_⟩
    rw [not_eq_iterate_not_iff, or_iff_right (List.cons_ne_nil t nots)]

theorem evaluate_nots_group :
    let r : Registry Unit := initial.register
      ⟨"Level", .quantity, .host, fun _ c => .answer (c.value == "7")⟩
    let nots := ["not", "NOT", "Not"]
    let ts := ["(", "Level", "==", "7", "and", "not", "false", ")", "or", "Bogus"]
    let value := fun ts => (r.evaluate () (parseTokens r.vocabulary ts)).value
    ((∀ t ∈ nots, Symbol.ofToken? t = some .not) ∧ Headed r.vocabulary ts ∧
      (parseTokens r.vocabulary ts).length = 1) ∧
      value ts = true ∧ value (nots ++ ts) = false := by
  intro r nots ts value
  have hnots : ∀ t ∈ nots, Symbol.ofToken? t = some .not := by decide +kernel
  have hinside : parseTokens r.vocabulary ["Level", "==", "7", "and", "not", "false"] ≠ [] := by
    rw [← List.length_pos_iff]
    decide +kernel
  have hhead : Headed r.vocabulary ts := .group (by decide +kernel) hinside
  have hone : (parseTokens r.vocabulary ts).length = 1 := by decide +kernel
  have htrue : value ts = true := by decide +kernel
  have hblind : r.Blind () := (blind_initial ()).register fun _ _ => rfl
  obtain ⟨e, -, -, hinverts, -⟩ := evaluate_nots r () hnots hhead hone
  refine ⟨⟨hnots, hhead, hone⟩, htrue, ?_⟩
  exact (hinverts (hblind.indifferent e)).trans (congrArg (· != !nots.isEmpty) htrue)

/-- Two negations do not take each other back. -/
theorem not_evaluate_nots :
    ¬∀ (r : Registry Unit) (nots ts : List String), r.Blind () →
      (∀ t ∈ nots, Symbol.ofToken? t = some .not) → Headed r.vocabulary ts →
      (parseTokens r.vocabulary ts).length = 1 →
      (r.evaluate () (parseTokens r.vocabulary (nots ++ ts))).value =
        not^[nots.length] (r.evaluate () (parseTokens r.vocabulary ts)).value := by
  intro h
  have hhead : Headed (initial : Registry Unit).vocabulary ["true"] :=
    .clause (c := Piece.literal "true") (by decide +kernel)
  have htwice := h initial ["not", "not"] ["true"] (blind_initial ()) (by decide +kernel) hhead
    (by decide +kernel)
  revert htwice
  decide +kernel

end Registry

end Criteria
