import Criteria.Proofs.Reading.Composition
import Criteria.Proofs.Reading.RoundTrip
import Criteria.Proofs.Registry.Naming
import Criteria.Proofs.Token.Words

/-!
# Flags and queries that are compared

Flags and queries take no comparison. A comparator behind one is passed over, and the literal behind
the comparator is a clause of its own, joined by `and`. So a comparison with `true` says the same as
the flag alone, but a comparison with `false` never holds.
-/
namespace Criteria

/-- The clause of a flag or a query. -/
def Clause.asking (keyword : String) (kind : PredicateKind) (method : String)
    (params : List String) : Clause :=
  { keyword, kind := .call kind, method, params }

namespace Piece

variable {v : Vocabulary} {name method : String} {kind : PredicateKind} {params rest : List String}

/-- A flag or a query takes its arguments, and no comparison. -/
theorem first_asking (hkind : kind = .flag ∨ kind = .query) (hname : Symbol.ofToken? name = none)
    (hbool : Value.bool? name = none) (hknown : v.classify name = some (kind, method))
    (hparams : Clause.TakesArguments kind params)
    (hrest : ∀ t ∈ rest.head?, Symbol.ofToken? t ≠ some .openParen) :
    let c := Clause.asking name kind method params
    first v name (c.argumentTokens ++ rest) = (.clause c, c.argumentTokens.length) := by
  intro c
  have harguments : argumentsFor kind (c.argumentTokens ++ rest) =
      .ok (params, c.argumentTokens.length) := argumentsFor_argumentTokens rfl hparams hrest
  have hcomparison : comparisonFor v kind rest = .ok (none, "", 0) := by
    rw [comparisonFor, if_neg]
    rcases hkind with rfl | rfl <;> simp [readsComparison, ClauseKind.needsComparison]
  rw [first_call hname hbool hknown]
  simp only [call, harguments, List.drop_left, hcomparison]
  rfl

end Piece

namespace Evaluation

variable (ask : Clause → Dispatch)

/-- A clause by itself. -/
theorem evaluate_leaf {c : Clause} (hgroup : c.isGroup = false) (hjoin : c.join = .and)
    (hnegated : c.negated = false) : (evaluate ask [.leaf c]).value = (ask c).isTrue := by
  have hand : (Expr.leaf c).clause.join = .and := hjoin
  rw [evaluate_singleton ask hand, Expr.leaf, evaluateExpr, if_neg (by simp [hgroup]), hnegated]
  exact Bool.bne_false _

/-- Two expressions that are joined by `and`. -/
theorem evaluate_pair {e e' : Expr} (he : e.clause.join = .and) (he' : e'.clause.join = .and) :
    (evaluate ask [e, e']).value = ((evaluate ask [e]).value && (evaluate ask [e']).value) := by
  rw [evaluate_value_cons, evaluate_value_cons, evaluate_value_cons, foldFrom_value_cons, he, he',
    if_neg (by simp), if_neg (by simp), if_neg (by simp), if_neg (by simp), foldFrom_nil,
    foldFrom_nil, foldFrom_nil]

end Evaluation

namespace Registry

variable {ω : Type}

/-- The texts that use a flag or a query: its name, for a query with words in parentheses. -/
inductive Asks (r : Registry ω) : String → Prop
  | flag {name method : String} (word : PlainWord name) (noTruth : Value.bool? name = none)
      (known : r.classify name = some (.flag, method)) : Asks r name
  | query {name method list : String} {params : List String} (word : PlainWord name)
      (noTruth : Value.bool? name = none) (known : r.classify name = some (.query, method))
      (listed : Spells list params) (words : ∀ p ∈ params, PlainWord p) :
      Asks r (name ++ "(" ++ list ++ ")")

/-- How the use of a flag or a query is split and read. -/
structure AskedBy (r : Registry ω) (text : String) (c : Clause) : Prop where
  spelled : Spells text (c.keyword :: c.argumentTokens)
  read : ∀ rest : List String, (∀ t ∈ rest.head?, Symbol.ofToken? t ≠ some .openParen) →
    Piece.first r.vocabulary c.keyword (c.argumentTokens ++ rest) =
      (.clause c, c.argumentTokens.length)
  bare : { c with join := .and, negated := false } = c

theorem Asks.askedBy {r : Registry ω} {text : String} (h : r.Asks text) :
    ∃ c, r.AskedBy text c := by
  cases h with
  | @flag name method word noTruth known =>
    refine ⟨.asking text .flag method [], .plain word, fun rest hrest => ?_, rfl⟩
    exact Piece.first_asking (.inl rfl) word.noSymbol noTruth known ⟨nofun, nofun⟩ hrest
  | @query name method list params word noTruth known listed words =>
    refine ⟨.asking name .query method params, ?_, fun rest hrest => ?_, rfl⟩
    · have htext : name ++ "(" ++ list ++ ")" = name ++ ("(" ++ list ++ ")") := by
        simp only [String.append_assoc]
      rw [htext]
      refine (Spells.plain word).append listed.parenthesized ?_
      rw [String.append_assoc, String.toList_append]
      exact Token.apart_cons (by decide) _
    · exact Piece.first_asking (.inr rfl) word.noSymbol noTruth known
        ⟨fun p hp => ⟨(words p hp).isAtom, (words p hp).noSymbol⟩, fun _ => .inl rfl⟩ hrest

namespace AskedBy

variable {r : Registry ω} {text : String} {c : Clause}

theorem parse_alone (h : r.AskedBy text c) : parse r.vocabulary text = [.leaf c] := by
  have hfirst := h.read [] nofun
  rw [List.append_nil] at hfirst
  rw [parse, h.spelled.tokens, Reading.parseTokens_eq, Reading.readAll_cons, hfirst,
    List.drop_length, Reading.readAll_nil]
  exact congrArg (fun c => [Expr.leaf c]) h.bare

/-- The comparator is passed over, and what is compared with is read as a clause. -/
theorem parse_compared (h : r.AskedBy text c) (op : Comparator) {literal : String}
    (hliteral : PlainWord literal) (htruth : (Value.bool? literal).isSome = true) :
    parse r.vocabulary (text ++ " " ++ op.text ++ " " ++ literal) =
      [.leaf c, .leaf (Piece.literal literal)] := by
  have htokens : tokenize (text ++ " " ++ op.text ++ " " ++ literal) =
      c.keyword :: (c.argumentTokens ++ [op.text, literal]) := by
    rw [((h.spelled.spaced (.word (isAtom_comparator op))).spaced (.plain hliteral)).tokens]
    simp
  have hfirst := h.read [op.text, literal] (by simp [Piece.ofToken?_comparator])
  rw [parse, htokens, Reading.parseTokens_eq, Reading.readAll_cons, hfirst, List.drop_left,
    Reading.readAll_cons, Piece.first_comparator, List.drop_zero, Reading.readAll_cons,
    Piece.first_literal hliteral.noSymbol htruth, List.drop_zero, Reading.readAll_nil]
  exact congrArg (fun c => [Expr.leaf c, Expr.leaf (Piece.literal literal)]) h.bare

end AskedBy

/-- The literals have the predicate that a registry gives them at first. -/
def LiteralsKept [Number.Decimals] (r : Registry ω) : Prop :=
  (r.entry? Piece.literalMethod).map Entry.predicate = some (literalPredicate ω)

theorem plainWord_truth (b : Bool) : PlainWord (Value.bool b).asText := by
  cases b <;> decide +kernel

theorem bool?_truth (b : Bool) : Value.bool? (Value.bool b).asText = some b := by
  cases b <;> decide

theorem parse_truth (v : Vocabulary) (b : Bool) :
    parse v (Value.bool b).asText = [.leaf (Piece.literal (Value.bool b).asText)] := by
  have htruth : (Value.bool? (Value.bool b).asText).isSome = true := by rw [bool?_truth]; rfl
  rw [parse, (Spells.plain (plainWord_truth b)).tokens, Reading.parseTokens_eq,
    Reading.readAll_cons, Piece.first_literal (plainWord_truth b).noSymbol htruth, List.drop_zero,
    Reading.readAll_nil]
  rfl

theorem literalsKept_initial [Number.Decimals] : (initial : Registry ω).LiteralsKept := by
  simp [LiteralsKept, initial, entry?, Entry.key]

theorem LiteralsKept.register [Number.Decimals] {r : Registry ω} (h : r.LiteralsKept)
    {e : Entry ω} (he : e.key ≠ Text.lowercase Piece.literalMethod) : (r.register e).LiteralsKept := by
  rw [LiteralsKept, entry?_register_of_ne r he]
  exact h

/-- A literal is as true as it says, unless it has got another predicate. -/
theorem LiteralsKept.check_truth [Number.Decimals] {r : Registry ω} (h : r.LiteralsKept)
    (world : ω) (b : Bool) :
    r.check world (Value.bool b).asText = b := by
  obtain ⟨e, hentry, hpredicate⟩ := Option.map_eq_some_iff.mp h
  have hdispatch : (r.dispatch world (Piece.literal (Value.bool b).asText)).isTrue = b := by
    have hmethod : (Piece.literal (Value.bool b).asText).method = Piece.literalMethod := rfl
    rw [dispatch, hmethod, hentry]
    simp only [Dispatch.isTrue, hpredicate]
    cases b <;> rfl
  rw [check, parse_truth, evaluate, Evaluation.evaluate_leaf _ rfl rfl rfl, hdispatch]

/-- A comparison of a flag or a query with a truth value holds if the flag and the truth value do,
whatever the comparator. -/
theorem check_compared [Number.Decimals] (r : Registry ω) (world : ω) {text : String}
    (h : r.Asks text) (op : Comparator) (b : Bool) :
    let compared := text ++ " " ++ op.text ++ " " ++ (Value.bool b).asText
    r.check world compared = (r.check world text && r.check world (Value.bool b).asText) ∧
      (r.LiteralsKept → r.check world compared = (r.check world text && b)) := by
  intro compared
  obtain ⟨c, hc⟩ := h.askedBy
  have htruth : (Value.bool? (Value.bool b).asText).isSome = true := by rw [bool?_truth]; rfl
  have hjoin : (Expr.leaf c).clause.join = .and := congrArg Clause.join hc.bare.symm
  have hboth : r.check world compared =
      (r.check world text && r.check world (Value.bool b).asText) := by
    rw [check, check, check, hc.parse_compared op (plainWord_truth b) htruth, hc.parse_alone,
      parse_truth]
    exact Evaluation.evaluate_pair _ hjoin rfl
  exact ⟨hboth, fun hkept => by rw [hboth, hkept.check_truth]⟩

/-- A query with two words, which holds, and a flag that does not, compared with both truth
values. -/
theorem check_compared_query :
    let quest : Entry Unit :=
      ⟨"HasQuest", .query, .host, fun _ c => .answer (c.params == ["1", "a"])⟩
    let dead : Entry Unit := ⟨"IsDead", .flag, .host, fun _ _ => .answer false⟩
    let r := (initial.register quest).register dead
    r.check () ("HasQuest(1, a)" ++ " " ++ "==" ++ " " ++ "true") = true ∧
      r.check () ("HasQuest(1, a)" ++ " " ++ "==" ++ " " ++ "false") = false ∧
      r.check () ("playerIsDead" ++ " " ++ "==" ++ " " ++ "false") = false := by
  intro quest dead r
  have hlist : Spells "1, a" ["1", "a"] :=
    ⟨List.all_iff_forall_prop.mp (by decide), by decide +kernel⟩
  have hquery : r.classify "HasQuest" = some (.query, "HasQuest") := by decide +kernel
  have hquest : r.Asks ("HasQuest" ++ "(" ++ "1, a" ++ ")") :=
    .query (by decide +kernel) (by decide) hquery hlist (by decide +kernel)
  have hflag : r.classify "playerIsDead" = some (.flag, "IsDead") := by decide +kernel
  have hdead : r.Asks "playerIsDead" := .flag (by decide +kernel) (by decide) hflag
  have hkept : r.LiteralsKept :=
    (literalsKept_initial.register (by decide +kernel)).register (by decide +kernel)
  have htrue : r.check () ("HasQuest" ++ "(" ++ "1, a" ++ ")") = true := by decide +kernel
  have hfalse : r.check () "playerIsDead" = false := by decide +kernel
  refine ⟨?_, ?_, ?_⟩
  · exact ((check_compared r () hquest .equal true).2 hkept).trans (by rw [htrue]; rfl)
  · exact ((check_compared r () hquest .equal false).2 hkept).trans (by rw [htrue]; rfl)
  · exact ((check_compared r () hdead .equal false).2 hkept).trans (by rw [hfalse]; rfl)

/-- A flag that does not hold, compared with `false`. -/
theorem not_check_compared :
    ¬ ∀ (r : Registry Unit) (text : String), r.LiteralsKept → r.Asks text → ∀ b : Bool,
      (r.check () (text ++ " == " ++ (Value.bool b).asText) = true ↔ r.check () text = b) := by
  intro h
  let r : Registry Unit := initial.register ⟨"IsDead", .flag, .host, fun _ _ => .answer false⟩
  have hflag : r.classify "IsDead" = some (.flag, "IsDead") := by decide +kernel
  have hdead := h r "IsDead" (literalsKept_initial.register (by decide +kernel))
    (.flag (by decide +kernel) (by decide) hflag) false
  exact absurd hdead (by decide +kernel)

end Registry

end Criteria
