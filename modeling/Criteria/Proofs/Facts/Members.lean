import Criteria.Program
import Criteria.Proofs.Evaluation.Comparing
import Criteria.Proofs.Reading.WellFormed
import Criteria.Proofs.Text.Casing
import Criteria.Proofs.Text.Trimming

/-!
# Two ways to name a fact

A fact is named behind the point of the scope of facts, or as the argument of a predicate. The two
are read in different ways, but ask for the same fact: a comparison says the same in both, also
where it is dropped because its literal is the name of a predicate, and the name alone says whether
the fact counts as true.
-/
namespace Criteria

namespace Text

theorem splitAt?_point {before : String} (h : '.' ∉ before.toList) (after : String) :
    splitAt? '.' (before ++ "." ++ after) = some (before, after) := by
  have hbefore : ∀ c ∈ before.toList, (c != '.') = true := by
    intro c hc
    rw [bne_iff_ne]
    rintro rfl
    exact h hc
  rw [splitAt?, List.span_eq_takeWhile_dropWhile, String.toList_append, String.toList_append,
    List.append_assoc, List.takeWhile_append_of_pos hbefore, List.dropWhile_append_of_pos hbefore]
  simp

end Text

section Points

variable {s : String} (h : s.toList.contains '.' = true)

include h

/-- No symbol has a point in it. -/
theorem Symbol.ofToken?_of_point : ofToken? s = none := by
  have hsymbols : ∀ entry ∈ written ++ words, entry.1.toList.contains '.' = false := by decide
  rw [ofToken?, Option.map_eq_none_iff, List.find?_eq_none]
  intro entry hentry hsame
  rw [← Text.contains_point_congr hsame, hsymbols entry hentry] at h
  contradiction

/-- No truth value has a point in it. -/
theorem Value.bool?_of_point : bool? s = none := by
  by_contra htruth
  have hsame := eqIgnoringAsciiCase_of_bool? (Option.isSome_iff_ne_none.mpr htruth)
  rw [Text.not_contains_point_truth hsame] at h
  contradiction

end Points

namespace Comparison

/-- Whether a comparison holds depends on the operator and the literal only. -/
theorem isTrue_ofClause [Number.Decimals] {c c' : Clause} (hoperator : c'.operator = c.operator)
    (hvalue : c'.value = c.value) (v : Value) :
    (ofClause c' v).outcome.isTrue = (ofClause c v).outcome.isTrue := by
  have hvalues : ∀ expected, (values c' v expected).outcome.isTrue =
      (values c v expected).outcome.isTrue := by
    intro expected
    -- The clause is named only where two values cannot be compared, which is no answer.
    cases v <;> cases expected <;> simp only [values, hoperator] <;> split <;> rfl
  rw [ofClause, ofClause, Clause.typedValue, Clause.typedValue, hoperator, hvalue]
  cases c.operator with
  | none => rfl
  | some op => exact hvalues _

end Comparison

namespace Piece

variable {v : Vocabulary} {keyword method : String} {kind : PredicateKind} {params : List String}

/-- A clause that is compared behind its arguments. It is dropped, without its arguments, if the
literal is the name of a predicate. -/
theorem first_compared (hname : Symbol.ofToken? keyword = none)
    (hbool : Value.bool? keyword = none) (hknown : v.classify keyword = some (kind, method))
    (hparams : Clause.TakesArguments kind params)
    (hallowed : (ClauseKind.call kind).needsComparison = true ∨ kind = .scope)
    (op : Comparator) {literal : String} (hliteral : Symbol.ofToken? literal = none) :
    let c := Clause.asking keyword kind method params
    first v keyword (c.argumentTokens ++ [op.text, literal]) =
      if v.isKnown literal then
        (.malformed keyword (.call kind) (.nameValue literal), c.argumentTokens.length)
      else
        (.clause { c with operator := some op, value := literal }, c.argumentTokens.length + 2) := by
  intro c
  have harguments : argumentsFor kind (c.argumentTokens ++ [op.text, literal]) =
      .ok (params, c.argumentTokens.length) :=
    argumentsFor_argumentTokens rfl hparams (by simp [ofToken?_comparator])
  have hreads : readsComparison kind [op.text, literal] = true := by
    rcases hallowed with hneeds | rfl
    · simp [readsComparison, hneeds]
    · simp [readsComparison, ofToken?_comparator, Symbol.comparator?]
  have hcomparison : comparisonFor v kind [op.text, literal] =
      if v.isKnown literal then .error (.nameValue literal) else .ok (some op, literal, 2) := by
    rw [comparisonFor, if_pos hreads, comparison_value (ofToken?_comparator op), hliteral,
      if_neg (by simp)]
    split <;> rfl
  rw [first_call hname hbool hknown]
  simp only [call, harguments, List.drop_left, hcomparison]
  cases v.isKnown literal <;> rfl

end Piece

namespace Registry

variable {ω : Type}

/-- Entries with new keys go to the end, one after another. -/
theorem entries_foldl_register (es : List (Entry ω)) (r : Registry ω)
    (h : ((r.entries ++ es).map Entry.key).Nodup) :
    (es.foldl register r).entries = r.entries ++ es := by
  induction es generalizing r with
  | nil => exact (List.append_nil _).symm
  | cons e es ih =>
    have hnew : ¬ r.isKnown e.name = true := by
      rw [isKnown_iff]
      rw [List.map_append, List.nodup_append] at h
      exact fun hmem => h.2.2 _ hmem e.key (by simp) rfl
    have hstep : (r.register e).entries = r.entries ++ [e] := by rw [register, if_neg hnew]
    rw [List.foldl_cons, ih _ (by rwa [hstep, List.append_assoc]), hstep, List.append_assoc]
    rfl

theorem registerAll_fst (es : List (Entry ω)) (r : Registry ω) :
    (r.registerAll es).1 = es.foldl register r :=
  (List.foldl_hom Prod.fst fun _ _ => rfl).symm

/-- A name that stands for an entry, with arguments that the entry takes. -/
structure StandsFor (r : Registry ω) (keyword : String) (params : List String) (e : Entry ω) :
    Prop where
  word : IsWord keyword
  noTruth : Value.bool? keyword = none
  known : r.classify keyword = some (e.kind, e.name)
  arguments : Clause.TakesArguments e.kind params
  found : r.entry? e.name = some e

namespace StandsFor

variable {r : Registry ω} {keyword : String} {params : List String} {e : Entry ω}

/-- The clause of a name with its arguments. -/
def clause (_ : r.StandsFor keyword params e) : Clause := .asking keyword e.kind e.name params

/-- How the name is written with its arguments. -/
def text (h : r.StandsFor keyword params e) : String := keyword ++ h.clause.argumentText

/-- A condition that is read as one clause holds if the predicate of the clause does. -/
theorem check_eq (h : r.StandsFor keyword params e) (world : ω) {s : String}
    {operator : Operator} {value : String}
    (hparse : parse r.vocabulary s = [.leaf { h.clause with operator, value }]) :
    r.check world s = (e.predicate world { h.clause with operator, value }).outcome.isTrue := by
  have hfound : r.entry? h.clause.method = some e := h.found
  rw [check, hparse, evaluate, Evaluation.evaluate_leaf _ rfl rfl rfl, dispatch, hfound]
  rfl

theorem check_alone (h : r.StandsFor keyword params e) (world : ω)
    (hneedless : (ClauseKind.call e.kind).needsComparison = false) :
    r.check world h.text = (e.predicate world h.clause).outcome.isTrue := by
  have hfits : Expr.Fits r.vocabulary (.leaf { h.clause with join := .and, negated := false }) :=
    .leaf (.call h.word h.noTruth h.known h.arguments (.absent hneedless)) (by decide)
  have htext : (Expr.leaf h.clause).text = h.text := by
    simp [Expr.leaf, Expr.text, Clause.negationText, Clause.isGroup, Clause.body,
      Clause.comparisonText, Clause.hasComparison, text, clause, Clause.asking]
  apply h.check_eq world
  rw [← htext]
  exact hfits.parse_text rfl rfl

/-- With a comparison behind it the name is passed over, if the literal is the name of a predicate,
and the literal is read as it is alone. -/
theorem check_comparison (h : r.StandsFor keyword params e) (world : ω)
    (hallowed : (ClauseKind.call e.kind).needsComparison = true ∨ e.kind = .scope)
    (op : Comparator) {literal : String} (hliteral : PlainWord literal) :
    r.check world (h.text ++ " " ++ op.text ++ " " ++ literal) =
      if r.isKnown literal then r.check world literal
      else (e.predicate world
        { h.clause with operator := some op, value := literal }).outcome.isTrue := by
  have hnamed : Spells h.text (keyword :: h.clause.argumentTokens) :=
    Clause.spells_named (c := h.clause) h.word h.arguments.words
  have htokens : tokenize (h.text ++ " " ++ op.text ++ " " ++ literal) =
      keyword :: (h.clause.argumentTokens ++ [op.text, literal]) := by
    rw [((hnamed.spaced (.word (isAtom_comparator op))).spaced (.plain hliteral)).tokens]
    simp
  have hfirst := Piece.first_compared (v := r.vocabulary) h.word.noSymbol h.noTruth h.known
    h.arguments hallowed op hliteral.noSymbol
  split
  · next hknown =>
    have hdropped : Piece.first r.vocabulary keyword
        (h.clause.argumentTokens ++ [op.text, literal]) =
          (.malformed keyword (.call e.kind) (.nameValue literal),
            h.clause.argumentTokens.length) := hfirst.trans (if_pos hknown)
    have hparse : parse r.vocabulary (h.text ++ " " ++ op.text ++ " " ++ literal) =
        parse r.vocabulary literal := by
      rw [parse, htokens, Reading.parseTokens_eq, Reading.readAll_cons, hdropped, List.drop_left,
        Reading.readAll_cons, Piece.first_comparator, List.drop_zero, parse,
        (Spells.plain hliteral).tokens, Reading.parseTokens_eq]
      rfl
    rw [check, check, hparse]
  · next hunknown =>
    have hread : Piece.first r.vocabulary keyword
        (h.clause.argumentTokens ++ [op.text, literal]) =
          (.clause { h.clause with operator := some op, value := literal },
            h.clause.argumentTokens.length + 2) := hfirst.trans (if_neg hunknown)
    have hall : (h.clause.argumentTokens ++ [op.text, literal]).drop
        (h.clause.argumentTokens.length + 2) = [] := List.drop_eq_nil_of_le (by simp)
    apply h.check_eq world
    rw [parse, htokens, Reading.parseTokens_eq, Reading.readAll_cons, hread, hall,
      Reading.readAll_nil]
    rfl

end StandsFor

end Registry

namespace FactSheet

variable {name : String}

theorem contains_point_member (name : String) :
    ("Facts." ++ name).toList.contains '.' = true := by simp

theorem splitAt?_member (name : String) :
    Text.splitAt? '.' ("Facts." ++ name) = some (scopeName, name) := by
  have hscope : "Facts." = scopeName ++ "." := rfl
  rw [hscope]
  exact Text.splitAt?_point (by decide) name

theorem isWord_of_plainWord {w : String} (h : PlainWord w) : IsWord w := ⟨h.isAtom, h.noSymbol⟩

theorem plainWord_member (hname : PlainWord name) : PlainWord ("Facts." ++ name) := by
  refine ⟨by simp, ?_, Symbol.ofToken?_of_point (contains_point_member name)⟩
  intro c hc
  rw [String.toList_append] at hc
  rcases List.mem_append.mp hc with hc | hc
  · have hscope : PlainWord "Facts." := by decide
    exact hscope.plain c hc
  · exact hname.plain c hc

/-- A word is no less as a parameter. -/
theorem textParam_word {c : Clause} {index : Nat} (hparam : c.param? index = some name)
    (hname : PlainWord name) : textParam c index = .ok name := by
  have hblank : ∀ x ∈ name.toList, Text.isBlank x = false := by
    intro x hx
    have hplain := hname.plain x hx
    simp only [Token.isPlain, Token.isSeparator, Bool.and_eq_true, Bool.not_eq_true',
      Bool.or_eq_false_iff] at hplain
    exact hplain.1.1.1
  rw [textParam, Parameter.read, hparam]
  simp only [Text.trim_eq_self hblank, Parameter.text, String.ofList_toList]
  rfl

theorem member?_member {c : Clause} (hkeyword : c.keyword = "Facts." ++ name) :
    c.member? = some name := by
  rw [Clause.member?, hkeyword, splitAt?_member, Option.map_some]

/-- How a name is written with one word as its argument. -/
theorem argumentText_asking (keyword method word : String) (kind : PredicateKind) :
    (Clause.asking keyword kind method [word]).argumentText = "(" ++ word ++ ")" := by
  simp [Clause.argumentText, Clause.asking]

theorem isTrue_isSet (f : FactSheet) {c : Clause} (hname : PlainWord name)
    (hparams : c.params = [name]) : (isSet f c).outcome.isTrue = f.isTrue name := by
  have hparam : c.param? 0 = some name := by rw [Clause.param?, hparams]; rfl
  rw [isSet, ofResult, textParam_word hparam hname]
  rfl

section Comparing

variable [Number.Decimals]

/-- Whether a fact is a scalar that compares with a literal as asked. -/
def compares (f : FactSheet) (name : String) (op : Comparator) (literal : String) : Bool :=
  let comparison : Clause :=
    { keyword := name, kind := .unknown, operator := some op, value := literal }
  ((f.get? name).bind Json.scalar?).any fun v => (Comparison.ofClause comparison v).outcome.isTrue

/-- A fact that is missing or no scalar compares with nothing. -/
theorem isTrue_compareFact (f : FactSheet) {c : Clause} {op : Comparator}
    (hoperator : c.operator = some op) (name : String) :
    (f.compareFact c name).outcome.isTrue = f.compares name op c.value := by
  rw [compareFact, compares, requiredScalar, required]
  cases f.get? name with
  | none => rfl
  | some fact =>
    cases hscalar : fact.scalar? with
    | none => simp [Except.bind, hscalar, Report.error, Outcome.isTrue]
    | some v =>
      simp only [Except.bind, hscalar, Option.bind_some, Option.any_some]
      apply Comparison.isTrue_ofClause
      · exact hoperator
      · rfl

/-- In both ways of naming a fact it is compared. -/
theorem isTrue_member_compared (f : FactSheet) {c : Clause} {op : Comparator}
    (hkeyword : c.keyword = "Facts." ++ name) (hoperator : c.operator = some op) :
    (member f c).outcome.isTrue = f.compares name op c.value := by
  rw [member, member?_member hkeyword, hoperator]
  exact f.isTrue_compareFact hoperator name

theorem isTrue_fact (f : FactSheet) {c : Clause} {op : Comparator} (hname : PlainWord name)
    (hparams : c.params = [name]) (hoperator : c.operator = some op) :
    (fact f c).outcome.isTrue = f.compares name op c.value := by
  have hparam : c.param? 0 = some name := by rw [Clause.param?, hparams]; rfl
  rw [fact, textParam_word hparam hname]
  exact f.isTrue_compareFact hoperator name

/-- In both ways a fact alone is asked whether it counts as true. -/
theorem isTrue_member_alone (f : FactSheet) {c : Clause} (hkeyword : c.keyword = "Facts." ++ name)
    (hoperator : c.operator = none) : (member f c).outcome.isTrue = f.isTrue name := by
  rw [member, member?_member hkeyword, hoperator]
  rfl

end Comparing

section Registry

variable [Number.Decimals] [PatternEngine]

theorem entries_registry : registry.entries = Registry.initial.entries ++ entries := by
  have hkeys : (Registry.initial.entries ++ entries).map Entry.key =
      ["GetBoolean", "Fact", "HasFact", "IsSet", "Matches", "Contains", "Facts"].map
        Text.lowercase := rfl
  rw [registry, Registry.registerAll_fst]
  exact Registry.entries_foldl_register _ _ (by rw [hkeys]; decide)

theorem sound_registry : registry.Sound := by
  have hbuilt : registry = Registry.built (entries.map .register) := by
    rw [registry, Registry.registerAll_fst, Registry.built, List.foldl_map]
    rfl
  rw [hbuilt]
  exact Registry.sound_built _

theorem mem_registry {e : Entry FactSheet} (he : e ∈ entries) : e ∈ registry.entries :=
  entries_registry ▸ List.mem_append_right _ he

/-- Each predicate over a fact sheet is found under its name. -/
theorem entry?_registry {e : Entry FactSheet} (he : e ∈ entries) :
    registry.entry? e.name = some e :=
  sound_registry.entry?_name (mem_registry he)

/-- The only flag is the predicate of the literals. -/
theorem within_registry {token : String}
    (htoken : Text.containsText (Text.lowercase Piece.literalMethod) (Text.lowercase token) = false) :
    registry.within .flag token = [] := by
  rw [Registry.within_eq_nil, entries_registry]
  intro e he hflag
  simp only [Registry.initial, entries, List.cons_append, List.nil_append, List.mem_cons,
    List.not_mem_nil, or_false] at he
  obtain rfl | rfl | rfl | rfl | rfl | rfl | rfl := he
  · exact htoken
  all_goals contradiction

/-- What stands behind the point does not matter for the scope. -/
theorem classify_member (name : String) :
    registry.classify ("Facts." ++ name) = some (.scope, scopeName) := by
  have hresolve : registry.resolve .scope ("Facts." ++ name) = some scopeName := by
    have hentry : registry.entry? scopeName = some ⟨scopeName, .scope, .facts, member⟩ :=
      entry?_registry (e := ⟨scopeName, .scope, .facts, member⟩) (by simp [entries])
    simp only [Registry.resolve, Registry.find?, splitAt?_member, Option.bind_some,
      Registry.named?, hentry]
    rfl
  rw [Registry.classify, if_pos (contains_point_member name), Registry.classifyDotted, hresolve]
  rfl

/-- A predicate with arguments is read by its name. -/
theorem classify_registry {kind : PredicateKind} {p : Predicate FactSheet}
    (he : ⟨name, kind, .facts, p⟩ ∈ entries) (hkind : kind = .method ∨ kind = .query)
    (hpoint : name.toList.contains '.' = false)
    (hflag : Text.containsText (Text.lowercase Piece.literalMethod) (Text.lowercase name) = false) :
    registry.classify name = some (kind, name) :=
  sound_registry.classify_of_within_eq_nil (mem_registry he) hkind hpoint (within_registry hflag)

theorem standsFor_member (hname : PlainWord name) :
    registry.StandsFor ("Facts." ++ name) [] ⟨scopeName, .scope, .facts, member⟩ where
  word := isWord_of_plainWord (plainWord_member hname)
  noTruth := Value.bool?_of_point (contains_point_member name)
  known := classify_member name
  arguments := ⟨nofun, nofun⟩
  found := entry?_registry (by simp [entries])

theorem standsFor_fact (hname : PlainWord name) :
    registry.StandsFor "Fact" [name] ⟨"Fact", .method, .facts, fact⟩ where
  word := isWord_of_plainWord (by decide)
  noTruth := by decide
  known := classify_registry (p := fact) (by simp [entries]) (.inl rfl) (by decide) (by decide)
  arguments := ⟨by simpa using isWord_of_plainWord hname, fun _ => Or.inl rfl⟩
  found := entry?_registry (by simp [entries])

theorem standsFor_isSet (hname : PlainWord name) :
    registry.StandsFor "IsSet" [name] ⟨"IsSet", .query, .facts, isSet⟩ where
  word := isWord_of_plainWord (by decide)
  noTruth := by decide
  known := classify_registry (p := isSet) (by simp [entries]) (.inr rfl) (by decide) (by decide)
  arguments := ⟨by simpa using isWord_of_plainWord hname, fun _ => Or.inl rfl⟩
  found := entry?_registry (by simp [entries])

/-- Every fact sheet answers the same, whether a fact is named behind the point of the scope or in
parentheses. A comparison asks whether the fact is a scalar that compares so, unless its literal is
the name of a predicate, which is then all that counts. The name alone asks whether the fact counts
as true. -/
theorem check_named (f : FactSheet) (hname : PlainWord name) :
    (∀ (op : Comparator) (literal : String), PlainWord literal →
      let compared := " " ++ op.text ++ " " ++ literal
      registry.check f ("Facts." ++ name ++ compared) =
          registry.check f ("Fact(" ++ name ++ ")" ++ compared) ∧
        registry.check f ("Facts." ++ name ++ compared) =
          if registry.isKnown literal then registry.check f literal
          else f.compares name op literal) ∧
      registry.check f ("Facts." ++ name) = registry.check f ("IsSet(" ++ name ++ ")") ∧
      registry.check f ("Facts." ++ name) = f.isTrue name := by
  have hmember := standsFor_member hname
  have hfact := standsFor_fact hname
  have hisSet := standsFor_isSet hname
  have hmemberText : hmember.text = "Facts." ++ name := String.append_empty
  have hfactText : hfact.text = "Fact(" ++ name ++ ")" := by
    have hopened : "Fact(" = "Fact" ++ "(" := rfl
    rw [Registry.StandsFor.text, Registry.StandsFor.clause, argumentText_asking, hopened]
    simp only [String.append_assoc]
  have hisSetText : hisSet.text = "IsSet(" ++ name ++ ")" := by
    have hopened : "IsSet(" = "IsSet" ++ "(" := rfl
    rw [Registry.StandsFor.text, Registry.StandsFor.clause, argumentText_asking, hopened]
    simp only [String.append_assoc]
  have halone : registry.check f ("Facts." ++ name) = f.isTrue name := by
    rw [← hmemberText, hmember.check_alone f rfl]
    exact f.isTrue_member_alone rfl rfl
  refine ⟨fun op literal hliteral => ?_, ?_, halone⟩
  · have hcompared : registry.check f ("Facts." ++ name ++ (" " ++ op.text ++ " " ++ literal)) =
        if registry.isKnown literal then registry.check f literal
        else f.compares name op literal := by
      have hcheck := hmember.check_comparison f (Or.inr rfl) op hliteral
      rw [hmemberText, f.isTrue_member_compared rfl rfl] at hcheck
      simpa only [String.append_assoc] using hcheck
    refine ⟨?_, hcompared⟩
    have hcheck := hfact.check_comparison f (Or.inl rfl) op hliteral
    rw [hfactText, f.isTrue_fact hname rfl rfl] at hcheck
    rw [hcompared, ← hcheck]
    simp only [String.append_assoc]
  · rw [halone, ← hisSetText, hisSet.check_alone f rfl]
    exact (f.isTrue_isSet hname rfl).symm

end Registry

/-- A fact whose name is written in another case, and one that is no scalar, compared with a number
and with the name of a predicate. -/
theorem check_named_level :
    let f : FactSheet := ⟨[("level", .integer 7), ("a.b", .array [.null])]⟩
    registry.check f ("Fact(" ++ "LEVEL" ++ ")" ++ (" " ++ ">=" ++ " " ++ "5")) = true ∧
      registry.check f ("Fact(" ++ "a.b" ++ ")" ++ (" " ++ "==" ++ " " ++ "isset")) =
        registry.check f "isset" ∧
      registry.check f ("IsSet(" ++ "a.b" ++ ")") = true := by
  intro f
  obtain ⟨hlevel, -⟩ := @check_named "LEVEL" _ _ f (by decide)
  obtain ⟨hlist, hset, htrue⟩ := @check_named "a.b" _ _ f (by decide)
  obtain ⟨hlevelSame, hlevelValue⟩ := hlevel .greaterEqual "5" (by decide)
  obtain ⟨hlistSame, hlistValue⟩ := hlist .equal "isset" (by decide)
  have hfree : registry.isKnown "5" = false := by decide
  have hknown : registry.isKnown "isset" = true := by decide
  have hcompares : f.compares "LEVEL" .greaterEqual "5" = true := by decide
  refine ⟨?_, ?_, ?_⟩
  · rw [hfree, if_neg (by simp), hcompares] at hlevelValue
    exact hlevelSame.symm.trans hlevelValue
  · rw [hknown, if_pos rfl] at hlistValue
    exact hlistSame.symm.trans hlistValue
  · exact hset.symm.trans (htrue.trans (by decide))

end FactSheet

end Criteria
