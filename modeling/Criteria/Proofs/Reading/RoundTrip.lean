import Criteria.Number.Limited
import Criteria.Proofs.Reading.Shape
import Criteria.Proofs.Token.Spelling
import Criteria.Registry

/-!
# Conditions that are written down and read again

An expression that was read from a text without quotes is written down as a text that is read as the
same expression. Two things are shown of the tokens of an expression: its text is split into them,
and they are read as the expression, whatever symbol that ends clauses follows.
-/
namespace Criteria

namespace Clause

def argumentTokens (c : Clause) : List String :=
  if c.kind.needsArguments || !c.params.isEmpty then "(" :: (c.params ++ [")"]) else []

def comparisonTokens (c : Clause) : List String :=
  if c.kind != .literal && c.hasComparison then [c.operator.text, c.value] else []

/-- What follows the name. -/
def furtherTokens (c : Clause) : List String := c.argumentTokens ++ c.comparisonTokens

def negationTokens (c : Clause) : List String := if c.negated then ["not"] else []

end Clause

namespace Expr

mutual

/-- The tokens of an expression. -/
def tokens : Expr → List String
  | node c es =>
    c.negationTokens ++
      if c.isGroup then "(" :: (listTokens es ++ [")"]) else c.keyword :: c.furtherTokens

def listTokens : List Expr → List String
  | [] => []
  | e :: es => tokens e ++ followingTokens es

def followingTokens : List Expr → List String
  | [] => []
  | e :: es => e.clause.join.text :: (tokens e ++ followingTokens es)

end

mutual

/-- Whether every list of expressions inside begins with one that is joined by `and`. -/
def ledByAnd : Expr → Bool
  | node _ es => listLedByAnd es

/-- Whether a list, and every list inside, begins with an expression that is joined by `and`. -/
def listLedByAnd : List Expr → Bool
  | [] => true
  | e :: es => e.clause.join == .and && ledByAnd e && followingLedByAnd es

def followingLedByAnd : List Expr → Bool
  | [] => true
  | e :: es => ledByAnd e && followingLedByAnd es

end

end Expr

namespace Clause

variable {v : Vocabulary} {c : Clause}

theorem Fits.keyword (h : c.Fits v) : IsWord c.keyword := by
  cases h with
  | literal word truth => exact word
  | call word noTruth name arguments comparison => exact word

theorem Fits.params (h : c.Fits v) : ∀ p ∈ c.params, IsWord p := by
  cases h with
  | literal word truth => simp [Piece.literal]
  | call word noTruth name arguments comparison => exact arguments.words

theorem Fits.value (h : c.Fits v) (hc : c.hasComparison = true) : IsWord c.value := by
  cases h with
  | literal word truth => contradiction
  | call word noTruth name arguments comparison =>
    cases comparison with
    | absent needless => contradiction
    | present word unknown allowed => exact word

theorem Fits.isGroup (h : c.Fits v) : c.isGroup = false := by cases h <;> rfl

/-- The arguments and the comparison of a clause begin behind any name. -/
theorem apart_argumentText : Token.Apart c.argumentText.toList := by
  rw [argumentText]
  split
  · rw [String.append_assoc, String.toList_append]
    exact Token.apart_cons (by decide) _
  · exact Token.apart_nil

theorem apart_comparisonText : Token.Apart c.comparisonText.toList := by
  rw [comparisonText]
  split
  · rw [String.append_assoc, String.append_assoc, String.toList_append]
    exact Token.apart_cons (by decide) _
  · exact Token.apart_nil

theorem spells_argumentText (hparams : ∀ p ∈ c.params, IsWord p) :
    Spells c.argumentText c.argumentTokens := by
  rw [argumentText, argumentTokens]
  split
  · exact (Spells.listed fun w hw => (hparams w hw).atom).parenthesized
  · exact .empty

/-- The name of a clause with its arguments. -/
theorem spells_named (hkeyword : IsWord c.keyword) (hparams : ∀ p ∈ c.params, IsWord p) :
    Spells (c.keyword ++ c.argumentText) (c.keyword :: c.argumentTokens) :=
  (Spells.word hkeyword.atom).append (spells_argumentText hparams) apart_argumentText

theorem Fits.spells_comparisonText (h : c.Fits v) :
    Spells c.comparisonText c.comparisonTokens := by
  rw [comparisonText, comparisonTokens]
  split
  · next hc =>
    have hcomparison : c.hasComparison = true := (Bool.and_eq_true_iff.mp hc).2
    obtain ⟨d, hd⟩ : ∃ d, c.operator = some d := by
      rw [← Option.isSome_iff_exists]
      exact (Bool.and_eq_true_iff.mp hcomparison).1
    have hoperator : Spells c.operator.text [c.operator.text] :=
      .word (by rw [hd]; exact isAtom_comparator d)
    have hvalue : Spells c.value [c.value] := .word (h.value hcomparison).atom
    rw [String.append_assoc, String.append_assoc]
    refine (hoperator.append hvalue.space ?_).space
    rw [String.toList_append]
    exact Token.apart_cons (by decide) _
  · exact .empty

theorem Fits.spells_body (h : c.Fits v) : Spells c.body (c.keyword :: c.furtherTokens) := by
  have hnamed := spells_named h.keyword h.params
  simpa [body, furtherTokens] using hnamed.append h.spells_comparisonText apart_comparisonText

/-- A negation in front of a text. -/
theorem spells_negated {s : String} {ts : List String} (h : Spells s ts) (c : Clause) :
    Spells (c.negationText ++ s) (c.negationTokens ++ ts) := by
  rw [negationText, negationTokens]
  split
  · have hnot : Spells "not" ["not"] := .word (isAtom_join .not)
    rw [show "not " = "not" ++ " " by decide, String.append_assoc]
    refine hnot.append h.space ?_
    rw [String.toList_append]
    exact Token.apart_cons (by decide) _
  · simpa using h

end Clause

namespace Expr

variable {v : Vocabulary}

theorem apart_followingText (es : List Expr) : Token.Apart (followingText es).toList := by
  cases es with
  | nil => exact Token.apart_nil
  | cons e es =>
    simp only [followingText, String.append_assoc, String.toList_append]
    exact Token.apart_cons (by decide) _

theorem spells_followingText {es : List Expr} (hes : ∀ e ∈ es, Spells e.text e.tokens) :
    Spells (followingText es) (followingTokens es) := by
  induction es with
  | nil => exact .empty
  | cons e es ih =>
    obtain ⟨he, hes⟩ := List.forall_mem_cons.mp hes
    have hjoin : Spells e.clause.join.text [e.clause.join.text] := .word (isAtom_join _)
    have hrest : Spells (e.text ++ followingText es) (e.tokens ++ followingTokens es) :=
      he.append (ih hes) (apart_followingText es)
    simp only [followingText, followingTokens, String.append_assoc]
    refine (hjoin.append hrest.space ?_).space
    rw [String.toList_append]
    exact Token.apart_cons (by decide) _

theorem spells_listText {es : List Expr} (hes : ∀ e ∈ es, Spells e.text e.tokens) :
    Spells (listText es) (listTokens es) := by
  cases es with
  | nil => exact .empty
  | cons e es =>
    obtain ⟨he, hes⟩ := List.forall_mem_cons.mp hes
    exact he.append (spells_followingText hes) (apart_followingText es)

/-- The text of an expression is split into its tokens. -/
theorem Fits.spells_text {e : Expr} (h : e.Fits v) : Spells e.text e.tokens := by
  induction h with
  | @leaf c join negated clause joined =>
    have hgroup : ({ c with join, negated } : Clause).isGroup = false := clause.isGroup
    rw [Expr.leaf, text, tokens, if_neg (by simp [hgroup]), if_neg (by simp [hgroup])]
    exact Clause.spells_negated clause.spells_body _
  | group joined nonempty inner ih =>
    have hgroup : ∀ join negated, (Clause.group join negated).isGroup = true := fun _ _ => rfl
    rw [Expr.group, text, tokens, if_pos (hgroup _ _), if_pos (hgroup _ _)]
    exact Clause.spells_negated (spells_listText ih).parenthesized _

end Expr

theorem IsWord.ne_empty {token : String} (h : IsWord token) : token ≠ "" := by
  rintro rfl
  simpa using h.atom.split

namespace Piece

variable {v : Vocabulary} {kind : PredicateKind} {c : Clause} {rest : List String}

theorem ofToken?_comparator (c : Comparator) : Symbol.ofToken? c.text = some (.compare c) := by
  cases c <;> decide

/-- The arguments of a clause are read from its tokens. -/
theorem argumentsFor_argumentTokens (hk : c.kind = .call kind)
    (h : Clause.TakesArguments kind c.params)
    (hr : ∀ t ∈ rest.head?, Symbol.ofToken? t ≠ some .openParen) :
    argumentsFor kind (c.argumentTokens ++ rest) = .ok (c.params, c.argumentTokens.length) := by
  have hopen : Symbol.ofToken? "(" = some .openParen := by decide
  have hwords : ∀ p ∈ c.params, Symbol.ofToken? p = none := fun p hp => (h.words p hp).noSymbol
  rw [Clause.argumentTokens, hk]
  -- A scope that was written with nothing between its parentheses is written without them.
  by_cases hwritten : (ClauseKind.call kind).needsArguments = true ∨ c.params ≠ []
  · have hreads : readsArguments kind ("(" :: (c.params ++ [")"]) ++ rest) = true := by
      rcases hwritten.elim Or.inl h.allowed with hneeds | rfl
      · simp [readsArguments, hneeds]
      · simp [readsArguments, hopen]
    rw [if_pos (by simpa using hwritten), argumentsFor, if_pos hreads, List.cons_append,
      arguments_open hopen, List.append_assoc, List.singleton_append,
      argumentList_eq hwords (by decide)]
    simp [Except.map]
  · obtain ⟨hneedless, hnone⟩ : (ClauseKind.call kind).needsArguments = false ∧ c.params = [] := by
      simpa using hwritten
    have hreads : readsArguments kind rest = false := by
      cases rest with
      | nil => simp [readsArguments, hneedless]
      | cons t rest => simp [readsArguments, hneedless, hr t rfl]
    rw [if_neg (by simp [hneedless, hnone]), List.nil_append, argumentsFor,
      if_neg (by simp [hreads]), hnone]
    rfl

/-- The comparison of a clause is read from its tokens, if no other one begins behind them. -/
theorem comparisonFor_comparisonTokens (hk : c.kind = .call kind)
    (h : Clause.TakesComparison v kind c.operator c.value) (hr : Behind rest) :
    comparisonFor v kind (c.comparisonTokens ++ rest) =
      .ok (c.operator, c.value, c.comparisonTokens.length) := by
  rw [Clause.comparisonTokens, Clause.hasComparison, hk]
  generalize c.operator = operator at h ⊢
  generalize c.value = value at h ⊢
  cases h with
  | absent needless =>
    have hreads : readsComparison kind rest = false := by
      rw [← List.nil_append rest, readsComparison_append hr]
      simp [readsComparison, needless]
    simp only [Option.isSome_none, Bool.false_and, Bool.and_false, if_neg Bool.false_ne_true]
    rw [List.nil_append, comparisonFor, if_neg (by simp [hreads])]
    rfl
  | @present d value word unknown allowed =>
    have hreads : readsComparison kind (d.text :: value :: rest) = true := by
      rcases allowed with hneeds | rfl
      · simp [readsComparison, hneeds]
      · simp [readsComparison, ofToken?_comparator, Symbol.comparator?]
    have hcomparison : comparison v (d.text :: value :: rest) = .ok (d, value) :=
      comparison_eq_ok.mpr ⟨_, _, rfl, ofToken?_comparator d, word.noSymbol, unknown⟩
    have hwritten :
        (ClauseKind.call kind != .literal && ((some d).isSome && value != "")) = true := by
      simp [word.ne_empty]
    rw [if_pos hwritten]
    show comparisonFor v kind (d.text :: value :: rest) = _
    rw [comparisonFor, if_pos hreads, hcomparison]
    rfl

/-- What follows the arguments of a clause begins with no parenthesis. -/
theorem not_openParen_comparisonTokens (hr : Behind rest) :
    ∀ t ∈ (c.comparisonTokens ++ rest).head?, Symbol.ofToken? t ≠ some .openParen := by
  intro t ht
  rw [Clause.comparisonTokens] at ht
  split at ht
  · next hc =>
    obtain ⟨d, hd⟩ : ∃ d, c.operator = some d := by
      simp only [Clause.hasComparison, Bool.and_eq_true] at hc
      exact Option.isSome_iff_exists.mp hc.2.1
    obtain rfl : c.operator.text = t := by simpa using ht
    rw [hd, show Operator.text (some d) = d.text from rfl, ofToken?_comparator]
    simp
  · cases rest with
    | nil => simp at ht
    | cons x rest =>
      obtain rfl : x = t := by simpa using ht
      exact ne_of_behind hr rfl

/-- A clause is read from its tokens, whatever symbol that ends clauses follows. -/
theorem first_clause (h : c.Fits v) (hr : Behind rest) :
    first v c.keyword (c.furtherTokens ++ rest) = (.clause c, c.furtherTokens.length) := by
  cases h with
  | literal word truth => exact first_literal word.noSymbol truth _
  | @call keyword method value kind params operator word noTruth name arguments comparison =>
    rw [first_call word.noSymbol noTruth name, call, Clause.furtherTokens, List.append_assoc,
      argumentsFor_argumentTokens rfl arguments (not_openParen_comparisonTokens hr)]
    simp only
    rw [List.drop_left, comparisonFor_comparisonTokens rfl comparison hr, List.length_append]

end Piece

namespace Reading

variable {v : Vocabulary}

theorem push_clear (r : Reading) (e : Expr) : (r.push e).clear = r.clear.push e := by
  rcases r with ⟨join?, negated, _ | ⟨f, fs⟩, root⟩ <;> rfl

/-- Expressions that are put into an open group. -/
theorem foldl_push (join? : Option Join) (negated : Bool) (f : Frame) (fs : List Frame)
    (root es : List Expr) :
    es.foldl push ⟨join?, negated, f :: fs, root⟩ =
      ⟨join?, negated, { f with children := f.children ++ es } :: fs, root⟩ := by
  induction es generalizing f with
  | nil => simp
  | cons e es ih => simp [push, ih]

/-- The tokens of an expression are read as the expression, if its join is the one that is waiting,
and whatever symbol that ends clauses follows. -/
def ReadsBack (v : Vocabulary) (e : Expr) : Prop :=
  ∀ (r : Reading) (rest : List String), Behind rest → r.join = e.clause.join → r.negated = false →
    r.readAll v (e.tokens ++ rest) = (r.clear.push e).readAll v rest

theorem behind_followingTokens {es : List Expr} (hes : ∀ e ∈ es, e.clause.join ≠ .not)
    {rest : List String} (hr : Behind rest) : Behind (Expr.followingTokens es ++ rest) := by
  cases es with
  | nil => exact hr
  | cons e es =>
    have he : e.clause.join ≠ .not := hes e (by simp)
    rw [Expr.followingTokens, List.cons_append]
    cases hj : e.clause.join with
    | and => exact behind_cons .and rfl (by decide) _
    | or => exact behind_cons .or rfl (by decide) _
    | not => contradiction

theorem readAll_followingTokens {es : List Expr} (hes : ∀ e ∈ es, e.clause.join ≠ .not)
    (hback : ∀ e ∈ es, ReadsBack v e) {rest : List String} (hr : Behind rest) {r : Reading}
    (hclear : r.clear = r) :
    r.readAll v (Expr.followingTokens es ++ rest) = (es.foldl push r).readAll v rest := by
  induction es generalizing r with
  | nil => rfl
  | cons e es ih =>
    obtain ⟨he, hes⟩ := List.forall_mem_cons.mp hes
    obtain ⟨hfirst, hback⟩ := List.forall_mem_cons.mp hback
    have hpushed : (r.push e).clear = r.push e := by rw [push_clear, hclear]
    have hnegated : r.negated = false := by rw [← hclear]; rfl
    have hwaiting : { r with join? := some e.clause.join }.clear = r := hclear
    rw [Expr.followingTokens, List.cons_append, List.append_assoc, readAll_cons,
      Piece.first_join he, List.drop_zero, step,
      hfirst { r with join? := some e.clause.join } _ (behind_followingTokens hes hr) rfl hnegated,
      hwaiting, ih hes hback hpushed, List.foldl_cons]

theorem readAll_listTokens {es : List Expr} (hes : ∀ e ∈ es, e.clause.join ≠ .not)
    (hback : ∀ e ∈ es, ReadsBack v e) (hled : ∀ e ∈ es.head?, e.clause.join = .and)
    {rest : List String} (hr : Behind rest) {r : Reading} (hclear : r.clear = r) :
    r.readAll v (Expr.listTokens es ++ rest) = (es.foldl push r).readAll v rest := by
  cases es with
  | nil => rfl
  | cons e es =>
    obtain ⟨-, hes⟩ := List.forall_mem_cons.mp hes
    obtain ⟨hfirst, hback⟩ := List.forall_mem_cons.mp hback
    have hpushed : (r.push e).clear = r.push e := by rw [push_clear, hclear]
    have hnegated : r.negated = false := by rw [← hclear]; rfl
    have hjoin : r.join = e.clause.join := by rw [hled e rfl, ← hclear]; rfl
    rw [Expr.listTokens, List.append_assoc,
      hfirst _ _ (behind_followingTokens hes hr) hjoin hnegated, hclear,
      readAll_followingTokens hes hback hr hpushed, List.foldl_cons]

theorem readAll_negationTokens {r : Reading} (hr : r.negated = false) (c : Clause)
    (ts : List String) :
    r.readAll v (c.negationTokens ++ ts) = { r with negated := c.negated }.readAll v ts := by
  rw [Clause.negationTokens]
  cases hc : c.negated with
  | true =>
    rw [if_pos rfl, List.singleton_append, readAll_cons, Piece.first_negation, List.drop_zero, step]
  | false => rw [if_neg (by simp), List.nil_append, ← hr]

theorem readsBack_leaf {c : Clause} (hc : c.Fits v) (join : Join) (negated : Bool) :
    ReadsBack v (.leaf { c with join, negated }) := by
  intro r rest hrest hjoin hr
  have hgroup : ({ c with join, negated } : Clause).isGroup = false := hc.isGroup
  have hfirst : Piece.first v c.keyword (c.furtherTokens ++ rest) =
      (.clause c, c.furtherTokens.length) := Piece.first_clause hc hrest
  have hstep : { r with negated }.step (.clause c) =
      r.clear.push (.leaf { c with join, negated }) := by
    rw [step, addClause, push_clear, show ({ r with negated } : Reading).join = join from hjoin]
    rfl
  rw [Expr.leaf, Expr.tokens, if_neg (by simp [hgroup]), List.append_assoc,
    readAll_negationTokens hr, List.cons_append, readAll_cons]
  show ({ r with negated }.step (Piece.first v c.keyword (c.furtherTokens ++ rest)).1).readAll v
    ((c.furtherTokens ++ rest).drop (Piece.first v c.keyword (c.furtherTokens ++ rest)).2) = _
  rw [hfirst, List.drop_left, hstep]
  rfl

theorem readsBack_group {es : List Expr} (hne : es ≠ []) (hes : ∀ e ∈ es, e.clause.join ≠ .not)
    (hback : ∀ e ∈ es, ReadsBack v e) (hled : ∀ e ∈ es.head?, e.clause.join = .and) (join : Join)
    (negated : Bool) : ReadsBack v (.group join negated es) := by
  intro r rest _ hjoin hr
  have hgroup : (Clause.group join negated).isGroup = true := rfl
  have hopened : { r with negated }.step .opening =
      ⟨none, false, ⟨join, negated, []⟩ :: r.frames, r.root⟩ := by
    rw [step, openGroup, show ({ r with negated } : Reading).join = join from hjoin]
    rfl
  have hclosed : (⟨none, false, ⟨join, negated, es⟩ :: r.frames, r.root⟩ : Reading).step .closing =
      r.clear.push (.group join negated es) := by
    rw [step, closeGroup_of_ne_nil hne, push_clear]
    rfl
  rw [Expr.group, Expr.tokens, if_pos hgroup, List.append_assoc, readAll_negationTokens hr,
    List.cons_append, List.append_assoc, List.singleton_append, readAll_cons,
    Piece.first_openParen, List.drop_zero]
  show ({ r with negated }.step .opening).readAll v _ = _
  rw [hopened, readAll_listTokens hes hback hled (behind_closing rest) rfl, foldl_push,
    List.nil_append, readAll_cons, Piece.first_closeParen, List.drop_zero, hclosed]
  rfl

end Reading

namespace Expr

variable {v : Vocabulary}

theorem Fits.join_ne_not {e : Expr} (h : e.Fits v) : e.clause.join ≠ .not := by
  cases h with
  | leaf clause joined => exact joined
  | group joined nonempty inner => exact joined

theorem followingLedByAnd_iff (es : List Expr) :
    followingLedByAnd es = true ↔ ∀ e ∈ es, e.ledByAnd = true := by
  induction es with
  | nil => simp [followingLedByAnd]
  | cons e es ih => rw [followingLedByAnd, Bool.and_eq_true, ih, List.forall_mem_cons]

theorem listLedByAnd_iff (es : List Expr) :
    listLedByAnd es = true ↔
      (∀ e ∈ es.head?, e.clause.join = .and) ∧ ∀ e ∈ es, e.ledByAnd = true := by
  cases es with
  | nil => simp [listLedByAnd]
  | cons e es => simp [listLedByAnd, followingLedByAnd_iff, and_assoc]

/-- What fits is read from its tokens. -/
theorem Fits.readsBack {e : Expr} (h : e.Fits v) (hled : e.ledByAnd = true) :
    Reading.ReadsBack v e := by
  -- The expressions of a group are read one after another only because each leaves a cleared
  -- reading behind, which is what `ReadsBack` says for every reading that waits for its join.
  induction h with
  | @leaf c join negated clause joined => exact Reading.readsBack_leaf clause join negated
  | @group join negated es joined nonempty inner ih =>
    rw [Expr.group, ledByAnd] at hled
    obtain ⟨hfirst, hes⟩ := (listLedByAnd_iff es).mp hled
    exact Reading.readsBack_group nonempty (fun e he => (inner e he).join_ne_not)
      (fun e he => ih e he (hes e he)) hfirst join negated

/-- What fits is read from its text. -/
theorem Fits.parse_text {e : Expr} (h : e.Fits v) (hjoin : e.clause.join = .and)
    (hled : e.ledByAnd = true) : parse v e.text = [e] := by
  have hread := h.readsBack hled Reading.start [] (by simp [Behind]) hjoin.symm rfl
  rw [parse, h.spells_text.tokens, Reading.parseTokens_eq]
  rw [List.append_nil, Reading.readAll_nil] at hread
  rw [hread]
  rfl

end Expr

namespace Registry

/-- A condition without quotes, written down as a group, is read as this group and nothing else: all
that was read in it is read again, if every list in it begins with a join by `and`, which is the one
that is not written. -/
theorem parse_group_text {ω : Type} (r : Registry ω) (s : String)
    (hs : ∀ c ∈ s.toList, Token.isQuote c = false) (hne : parse r.vocabulary s ≠ [])
    (hled : Expr.listLedByAnd (parse r.vocabulary s) = true) :
    parse r.vocabulary (Expr.group .and false (parse r.vocabulary s)).text =
      [.group .and false (parse r.vocabulary s)] := by
  have hfits : (Expr.group .and false (parse r.vocabulary s)).Fits r.vocabulary :=
    .group (by simp) hne (parse_fits r.vocabulary hs)
  exact hfits.parse_text rfl (by rwa [Expr.group, Expr.ledByAnd])

theorem parse_group_text_lenient :
    let r : Registry Unit := [⟨"Level", .quantity, .host, fun _ _ => .answer true⟩,
      ⟨"Has", .query, .host, fun _ _ => .answer true⟩,
      ⟨"Facts", .scope, .facts, fun _ _ => .answer true⟩].foldl register initial
    let s := "(Level>==)and not(Has(a,=)or Facts.x()) Level 5 Facts.y(&)<! or TRUE)"
    (∀ c ∈ s.toList, Token.isQuote c = false) ∧ parse r.vocabulary s ≠ [] ∧
      Expr.listLedByAnd (parse r.vocabulary s) = true ∧
      parse r.vocabulary (Expr.group .and false (parse r.vocabulary s)).text =
        [.group .and false (parse r.vocabulary s)] := by
  intro r s
  have hs : ∀ c ∈ s.toList, Token.isQuote c = false :=
    List.all_iff_forall_prop.mp (by decide)
  have hne : parse r.vocabulary s ≠ [] := by decide +kernel
  have hled : Expr.listLedByAnd (parse r.vocabulary s) = true := by decide +kernel
  exact ⟨hs, hne, hled, parse_group_text r s hs hne hled⟩

end Registry

end Criteria
