import Criteria.Proofs.Reading.Building
import Criteria.Proofs.Reading.Grouping
import Criteria.Proofs.Token.Splitting

/-!
# What conditions are read into

Clauses are made of words: the name, the arguments, and the literal behind a comparator. Groups are
not empty, and every join is `and` or `or`. The words of a text without quotes are tokens however
often they are written down, so all that is read from such a text may be written down again.
-/
namespace Criteria

/-- A token that is no symbol and is written without quotes. -/
structure IsWord (token : String) : Prop where
  atom : Token.IsAtom token.toList
  noSymbol : Symbol.ofToken? token = none

namespace Clause

/-- The arguments that a predicate of this kind may have. Those of a scope may be left out. -/
structure TakesArguments (kind : PredicateKind) (params : List String) : Prop where
  words : ∀ p ∈ params, IsWord p
  allowed : params ≠ [] → (ClauseKind.call kind).needsArguments = true ∨ kind = .scope

/-- The comparison that a predicate of this kind may have. That of a scope may be left out. -/
inductive TakesComparison (v : Vocabulary) (kind : PredicateKind) : Operator → String → Prop
  | absent (needless : (ClauseKind.call kind).needsComparison = false) :
      TakesComparison v kind none ""
  | present {c : Comparator} {value : String} (word : IsWord value)
      (unknown : v.isKnown value = false)
      (allowed : (ClauseKind.call kind).needsComparison = true ∨ kind = .scope) :
      TakesComparison v kind (some c) value

/-- The clauses that a vocabulary allows, as they are before they are joined or negated. -/
inductive Fits (v : Vocabulary) : Clause → Prop
  | literal {token : String} (word : IsWord token) (truth : (Value.bool? token).isSome = true) :
      Fits v (Piece.literal token)
  | call {keyword method value : String} {kind : PredicateKind} {params : List String}
      {operator : Operator} (word : IsWord keyword) (noTruth : Value.bool? keyword = none)
      (name : v.classify keyword = some (kind, method)) (arguments : TakesArguments kind params)
      (comparison : TakesComparison v kind operator value) :
      Fits v { keyword, kind := .call kind, method, operator, value, params }

end Clause

/-- The expressions that a vocabulary allows. -/
inductive Expr.Fits (v : Vocabulary) : Expr → Prop
  | leaf {c : Clause} {join : Join} {negated : Bool} (clause : c.Fits v) (joined : join ≠ .not) :
      Fits v (.leaf { c with join, negated })
  | group {join : Join} {negated : Bool} {es : List Expr} (joined : join ≠ .not)
      (nonempty : es ≠ []) (inner : ∀ e ∈ es, Fits v e) : Fits v (.group join negated es)

namespace Piece

variable {v : Vocabulary} {kind : PredicateKind}

/-- A piece of which something that fits may be made. -/
def Fits (v : Vocabulary) : Piece → Prop
  | join j => j ≠ .not
  | clause c => c.Fits v
  | _ => True

theorem allowed_of_readsArguments {ts : List String} (h : readsArguments kind ts = true) :
    (ClauseKind.call kind).needsArguments = true ∨ kind = .scope := by
  simp only [readsArguments, Bool.or_eq_true, Bool.and_eq_true, beq_iff_eq] at h
  exact h.imp_right And.left

theorem allowed_of_readsComparison {ts : List String} (h : readsComparison kind ts = true) :
    (ClauseKind.call kind).needsComparison = true ∨ kind = .scope := by
  simp only [readsComparison, Bool.or_eq_true, Bool.and_eq_true, beq_iff_eq] at h
  exact h.imp_right And.left

theorem takesArguments_of_argumentsFor {ts params : List String} {n : Nat}
    (hts : ∀ t ∈ ts, Token.IsAtom t.toList) (h : argumentsFor kind ts = .ok (params, n)) :
    Clause.TakesArguments kind params := by
  rcases argumentsFor_eq_ok h with ⟨-, rfl, -⟩ | ⟨hr, o, c, rest, rfl, -, hp, -⟩
  · exact ⟨by simp, by simp⟩
  · refine ⟨fun p hmem => ?_, fun _ => allowed_of_readsArguments hr⟩
    exact ⟨hts p (by simp [hmem]), hp p hmem⟩

theorem takesComparison_of_comparisonFor {ts : List String} {operator : Operator} {value : String}
    {n : Nat} (hts : ∀ t ∈ ts, Token.IsAtom t.toList)
    (h : comparisonFor v kind ts = .ok (operator, value, n)) :
    Clause.TakesComparison v kind operator value := by
  rcases comparisonFor_eq_ok h with ⟨hr, rfl, rfl, -⟩ | ⟨hr, c, t, rest, rfl, rfl, -, hx, hk, -⟩
  · simp only [readsComparison, Bool.or_eq_false_iff] at hr
    exact .absent hr.1
  · exact .present ⟨hts value (by simp), hx⟩ hk (allowed_of_readsComparison hr)

theorem first_fits {t : String} {ts : List String} (hts : ∀ x ∈ t :: ts, Token.IsAtom x.toList) :
    (first v t ts).1.Fits v := by
  cases hp : (first v t ts).1 with
  | join j =>
    rintro rfl
    exact first_ne_join_not t ts hp
  | clause c =>
    obtain ⟨ht, hts⟩ := List.forall_mem_cons.mp hts
    have hword : IsWord t := ⟨ht, ofToken?_of_clause hp⟩
    rcases first_eq_clause hp with ⟨htruth, rfl⟩ | ⟨kind, method, params, n, operator, value, m, hb,
      hname, ha, hc, rfl⟩
    · exact .literal hword htruth
    · have hrest : ∀ x ∈ ts.drop n, Token.IsAtom x.toList :=
        fun x hx => hts x (List.mem_of_mem_drop hx)
      exact .call hword hb hname (takesArguments_of_argumentsFor hts ha)
        (takesComparison_of_comparisonFor hrest hc)
  | _ => trivial

end Piece

theorem Expr.builds_fits (v : Vocabulary) :
    Reading.Builds (Piece.Fits v) (fun j _ => j ≠ .not) (Expr.Fits v) where
  idle := by simp
  join hj _ _ _ := hj
  negation _ _ _ hj := hj
  leaf hc _ _ hj := .leaf hc hj
  group hj hne hes := .group hj hne hes

/-- All expressions of a text without quotes fit. -/
theorem parse_fits (v : Vocabulary) {s : String} (hs : ∀ c ∈ s.toList, Token.isQuote c = false) :
    ∀ e ∈ parse v s, e.Fits v := by
  have hatoms : ∀ t ∈ tokenize s, Token.IsAtom t.toList := by
    intro t ht
    obtain ⟨token, htoken, rfl⟩ := List.mem_map.mp ht
    simpa using Token.isAtom_of_mem_split hs token htoken
  exact (Expr.builds_fits v).forall_parse
    (Piece.forall_mem_scan (fun t ts hts => Piece.first_fits hts) hatoms)

end Criteria
