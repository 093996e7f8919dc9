import Criteria.Proofs.Reading.Building
import Criteria.Proofs.Registry.Naming
import Criteria.Proofs.Text.Casing

/-!
# Other spellings

A symbol may be spelled with operator characters or as a word, and words in any case. The reader
asks of a token only which symbol it is and what its small-letter form is, so tokens in another
spelling are read into the same expressions, with the texts of the clauses in that spelling.
-/
namespace Criteria

open Text (eqIgnoringAsciiCase)

/-- Tokens that are the same symbol, or equal up to the case of ASCII letters. -/
def Token.Respelled (t t' : String) : Prop :=
  (Symbol.ofToken? t).isSome = true ∧ Symbol.ofToken? t' = Symbol.ofToken? t ∨
    eqIgnoringAsciiCase t t' = true

instance (t t' : String) : Decidable (Token.Respelled t t') := inferInstanceAs (Decidable (_ ∨ _))

/-- Clauses that say the same, in words that are equal up to the case of ASCII letters. -/
structure Clause.Respelled (c c' : Clause) : Prop where
  kind : c.kind = c'.kind
  join : c.join = c'.join
  negated : c.negated = c'.negated
  method : c.method = c'.method
  operator : c.operator = c'.operator
  keyword : eqIgnoringAsciiCase c.keyword c'.keyword = true
  value : eqIgnoringAsciiCase c.value c'.value = true
  params : List.Forall₂ (eqIgnoringAsciiCase · · = true) c.params c'.params

/-- Expressions of the same shape that say the same at every place. -/
inductive Expr.Respelled : Expr → Expr → Prop
  | node {c c' : Clause} {es es' : List Expr} (clause : c.Respelled c')
      (inner : List.Forall₂ Respelled es es') : Respelled (.node c es) (.node c' es')

/-- A vocabulary that looks at the letters of a name, but not at the case of ASCII letters. -/
structure Vocabulary.IgnoresCase (v : Vocabulary) : Prop where
  classify {t t' : String} : eqIgnoringAsciiCase t t' = true → v.classify t = v.classify t'
  isKnown {t t' : String} : eqIgnoringAsciiCase t t' = true → v.isKnown t = v.isKnown t'

theorem Text.eqIgnoringAsciiCase_self (s : String) : eqIgnoringAsciiCase s s = true :=
  eqIgnoringAsciiCase_iff.mpr rfl

theorem Value.bool?_congr {t t' : String} (h : eqIgnoringAsciiCase t t' = true) :
    bool? t = bool? t' := by
  unfold bool? eqIgnoringAsciiCase
  rw [beq_iff_eq.mp h]

theorem Symbol.ofToken?_congr {t t' : String} (h : eqIgnoringAsciiCase t t' = true) :
    ofToken? t = ofToken? t' := by
  unfold ofToken? eqIgnoringAsciiCase
  rw [beq_iff_eq.mp h]

theorem Token.Respelled.symbol {t t' : String} (h : Respelled t t') :
    Symbol.ofToken? t = Symbol.ofToken? t' := by
  rcases h with ⟨-, h⟩ | h
  · exact h.symm
  · exact Symbol.ofToken?_congr h

theorem Token.Respelled.word {t t' : String} (h : Respelled t t')
    (ht : Symbol.ofToken? t = none) : eqIgnoringAsciiCase t t' = true := by
  rcases h with ⟨hsymbol, -⟩ | h
  · simp [ht] at hsymbol
  · exact h

namespace Piece

open Token (Respelled)

/-- Two readings both succeed, with results that are related, or both fail. -/
inductive Agree {α : Type} (R : α → α → Prop) : Except Flaw α → Except Flaw α → Prop
  | ok {a b : α} : R a b → Agree R (.ok a) (.ok b)
  | error (flaw flaw' : Flaw) : Agree R (.error flaw) (.error flaw')

theorem Agree.map {α β : Type} {R : α → α → Prop} {S : β → β → Prop} {f g : α → β}
    {x y : Except Flaw α} (h : Agree R x y) (hf : ∀ a b, R a b → S (f a) (g b)) :
    Agree S (x.map f) (y.map g) := by
  cases h with
  | ok hr => exact .ok (hf _ _ hr)
  | error flaw flaw' => exact .error flaw flaw'

/-- Arguments in another spelling, which take as many tokens. -/
def SameArguments (a a' : List String × Nat) : Prop :=
  List.Forall₂ (eqIgnoringAsciiCase · · = true) a.1 a'.1 ∧ a.2 = a'.2

/-- The same comparator with a literal in another spelling, which take as many tokens. -/
def SameComparison (a a' : Operator × String × Nat) : Prop :=
  a.1 = a'.1 ∧ eqIgnoringAsciiCase a.2.1 a'.2.1 = true ∧ a.2.2 = a'.2.2

variable {v : Vocabulary} {ts ts' : List String}

theorem argumentList_respelled (h : List.Forall₂ Respelled ts ts') :
    Agree SameArguments (argumentList ts) (argumentList ts') := by
  induction h with
  | nil => exact .error _ _
  | @cons t t' ts ts' ht _ ih =>
    cases hs : Symbol.ofToken? t with
    | none =>
      rw [argumentList_word hs, argumentList_word (ht.symbol.symm.trans hs)]
      exact ih.map fun a b hab => ⟨.cons (ht.word hs) hab.1, congrArg (· + 1) hab.2⟩
    | some s =>
      have hs' := ht.symbol.symm.trans hs
      by_cases hclose : s = .closeParen
      · subst hclose
        rw [argumentList_close hs, argumentList_close hs']
        exact .ok ⟨.nil, rfl⟩
      · rw [argumentList_symbol hs hclose, argumentList_symbol hs' hclose]
        exact .error _ _

theorem arguments_respelled (h : List.Forall₂ Respelled ts ts') :
    Agree SameArguments (arguments ts) (arguments ts') := by
  cases h with
  | nil => exact .error _ _
  | @cons t t' ts ts' ht hts =>
    by_cases hopen : Symbol.ofToken? t = some .openParen
    · rw [arguments_open hopen, arguments_open (ht.symbol ▸ hopen)]
      exact (argumentList_respelled hts).map fun a b hab => ⟨hab.1, congrArg (· + 1) hab.2⟩
    · rw [arguments_other hopen, arguments_other (ht.symbol ▸ hopen)]
      exact .error _ _

/-- What is read next depends on the symbol that the first token is. -/
theorem head_respelled (h : List.Forall₂ Respelled ts ts') :
    ts.head?.bind Symbol.ofToken? = ts'.head?.bind Symbol.ofToken? := by
  cases h with
  | nil => rfl
  | cons ht _ => exact ht.symbol

theorem argumentsFor_respelled (kind : PredicateKind) (h : List.Forall₂ Respelled ts ts') :
    Agree SameArguments (argumentsFor kind ts) (argumentsFor kind ts') := by
  rw [argumentsFor, argumentsFor, readsArguments, readsArguments, head_respelled h]
  split
  · exact arguments_respelled h
  · exact .ok ⟨.nil, rfl⟩

theorem comparison_respelled (hv : v.IgnoresCase) (h : List.Forall₂ Respelled ts ts') :
    Agree (fun a a' => a.1 = a'.1 ∧ eqIgnoringAsciiCase a.2 a'.2 = true) (comparison v ts)
      (comparison v ts') := by
  cases h with
  | nil => exact .error _ _
  | @cons t t' ts ts' ht hts =>
    by_cases hc : ∃ c, Symbol.ofToken? t = some (.compare c)
    · obtain ⟨c, hc⟩ := hc
      have hc' := ht.symbol.symm.trans hc
      cases hts with
      | nil =>
        rw [comparison_alone hc, comparison_alone hc']
        exact .error _ _
      | @cons x x' ts ts' hx _ =>
        rw [comparison_value hc, comparison_value hc', ← hx.symbol]
        cases hs : Symbol.ofToken? x with
        | some s => exact .error _ _
        | none =>
          have hword := hx.word hs
          simp only [Option.isSome_none, Bool.false_eq_true, if_false, ← hv.isKnown hword]
          split
          · exact .error _ _
          · exact .ok ⟨rfl, hword⟩
    · rw [comparison_other (not_exists.mp hc),
        comparison_other (not_exists.mp (ht.symbol ▸ hc))]
      exact .error _ _

theorem comparisonFor_respelled (hv : v.IgnoresCase) (kind : PredicateKind)
    (h : List.Forall₂ Respelled ts ts') :
    Agree SameComparison (comparisonFor v kind ts) (comparisonFor v kind ts') := by
  rw [comparisonFor, comparisonFor, readsComparison, readsComparison, head_respelled h]
  split
  · exact (comparison_respelled hv h).map fun a b hab => ⟨congrArg some hab.1, hab.2, rfl⟩
  · exact .ok ⟨rfl, Text.eqIgnoringAsciiCase_self "", rfl⟩

/-- Pieces that are the same symbol, clauses that say the same, or both dropped. -/
inductive Respelled : Piece → Piece → Prop
  | symbol {p : Piece} (h : p.symbol?.isSome = true) : Respelled p p
  | clause {c c' : Clause} (h : c.Respelled c') : Respelled (clause c) (clause c')
  | malformed (t t' : String) (kind kind' : ClauseKind) (flaw flaw' : Flaw) :
      Respelled (malformed t kind flaw) (malformed t' kind' flaw')
  | unrecognized (t t' : String) : Respelled (unrecognized t) (unrecognized t')

theorem call_respelled (hv : v.IgnoresCase) (kind : PredicateKind) (method : String)
    {keyword keyword' : String} (hk : eqIgnoringAsciiCase keyword keyword' = true)
    (h : List.Forall₂ Token.Respelled ts ts') :
    Respelled (call v kind method keyword ts).1 (call v kind method keyword' ts').1 ∧
      (call v kind method keyword ts).2 = (call v kind method keyword' ts').2 := by
  have harguments := argumentsFor_respelled kind h
  rw [call, call]
  generalize argumentsFor kind ts = read, argumentsFor kind ts' = read' at harguments ⊢
  cases harguments with
  | error flaw flaw' => exact ⟨.malformed .., rfl⟩
  | @ok a a' ha =>
    obtain ⟨params, n⟩ := a
    obtain ⟨params', n'⟩ := a'
    obtain ⟨hparams, rfl⟩ : _ ∧ n = n' := ha
    have hcomparison := comparisonFor_respelled hv kind (List.forall₂_drop n h)
    simp only
    generalize comparisonFor v kind (ts.drop n) = read, comparisonFor v kind (ts'.drop n) = read'
      at hcomparison ⊢
    cases hcomparison with
    | error flaw flaw' => exact ⟨.malformed .., rfl⟩
    | @ok b b' hb =>
      obtain ⟨operator, value, m⟩ := b
      obtain ⟨operator', value', m'⟩ := b'
      obtain ⟨rfl, hvalue, rfl⟩ : operator = operator' ∧ _ ∧ m = m' := hb
      exact ⟨.clause ⟨rfl, rfl, rfl, rfl, rfl, hk, hvalue, hparams⟩, rfl⟩

theorem first_respelled (hv : v.IgnoresCase) {t t' : String} (ht : Token.Respelled t t')
    (h : List.Forall₂ Token.Respelled ts ts') :
    Respelled (first v t ts).1 (first v t' ts').1 ∧ (first v t ts).2 = (first v t' ts').2 := by
  cases hs : Symbol.ofToken? t with
  | some s =>
    have hsame : first v t' ts' = first v t ts := by
      rw [first, first, hs, ht.symbol.symm.trans hs]
      cases s <;> rfl
    rw [hsame]
    exact ⟨.symbol (by rw [symbol?_first, hs]; rfl), rfl⟩
  | none =>
    have hword := ht.word hs
    rw [first_word hs, first_word (ht.symbol.symm.trans hs), word, word, ← Value.bool?_congr hword,
      ← hv.classify hword]
    split
    · exact ⟨.clause ⟨rfl, rfl, rfl, rfl, rfl, hword, hword, .nil⟩, rfl⟩
    · split
      · exact call_respelled hv _ _ hword h
      · exact ⟨.unrecognized .., rfl⟩

/-- Tokens in another spelling are the same pieces in that spelling. -/
theorem scan_respelled (hv : v.IgnoresCase) (h : List.Forall₂ Token.Respelled ts ts') :
    List.Forall₂ (fun p p' => Respelled p.1 p'.1) (scan v ts) (scan v ts') := by
  induction hn : ts.length using Nat.strong_induction_on generalizing ts ts' with
  | _ n ih =>
    cases h with
    | nil => simp
    | @cons t t' ts ts' ht hts =>
      obtain ⟨hfirst, hsize⟩ := first_respelled hv ht hts
      rw [scan_cons, scan_cons, ← hsize]
      refine .cons hfirst (ih _ ?_ (List.forall₂_drop _ hts) rfl)
      simp only [List.length_cons, List.length_drop] at hn ⊢
      omega

end Piece

/-- Open groups in another spelling. -/
structure Frame.Respelled (f f' : Frame) : Prop where
  join : f.join = f'.join
  negated : f.negated = f'.negated
  children : List.Forall₂ Expr.Respelled f.children f'.children

namespace Reading

/-- What has been read of two spellings so far. -/
structure Respelled (r r' : Reading) : Prop where
  join? : r.join? = r'.join?
  negated : r.negated = r'.negated
  frames : List.Forall₂ Frame.Respelled r.frames r'.frames
  root : List.Forall₂ Expr.Respelled r.root r'.root

variable {r r' : Reading}

theorem Respelled.join (h : Respelled r r') : r.join = r'.join := by
  rw [Reading.join, Reading.join, h.join?]

theorem Respelled.clear (h : Respelled r r') : Respelled r.clear r'.clear :=
  ⟨rfl, rfl, h.frames, h.root⟩

theorem Respelled.push (h : Respelled r r') {e e' : Expr} (he : e.Respelled e') :
    Respelled (r.push e) (r'.push e') := by
  have hlast : List.Forall₂ Expr.Respelled [e] [e'] := .cons he .nil
  rcases r with ⟨join?, negated, _ | ⟨f, fs⟩, root⟩ <;>
    rcases r' with ⟨join?', negated', _ | ⟨f', fs'⟩, root'⟩
  · exact ⟨h.join?, h.negated, .nil, List.rel_append h.root hlast⟩
  · cases h.frames
  · cases h.frames
  · obtain ⟨hf, hfs⟩ := List.forall₂_cons.mp h.frames
    have hchildren := List.rel_append hf.children hlast
    exact ⟨h.join?, h.negated, .cons ⟨hf.join, hf.negated, hchildren⟩ hfs, h.root⟩

theorem Respelled.openGroup (h : Respelled r r') : Respelled r.openGroup r'.openGroup :=
  ⟨h.join?, h.negated, .cons ⟨h.join, h.negated, .nil⟩ h.frames, h.root⟩

theorem Respelled.closeGroup (h : Respelled r r') : Respelled r.closeGroup r'.closeGroup := by
  rcases r with ⟨join?, negated, _ | ⟨f, fs⟩, root⟩ <;>
    rcases r' with ⟨join?', negated', _ | ⟨f', fs'⟩, root'⟩
  · exact h
  · cases h.frames
  · cases h.frames
  · obtain ⟨hf, hfs⟩ := List.forall₂_cons.mp h.frames
    have houter : Respelled ⟨join?, negated, fs, root⟩ ⟨join?', negated', fs', root'⟩ :=
      ⟨h.join?, h.negated, hfs, h.root⟩
    have hchildren := hf.children
    by_cases hempty : f.children = []
    · have hempty' : f'.children = [] := by
        rw [hempty] at hchildren
        exact List.forall₂_nil_left_iff.mp hchildren
      rw [closeGroup_of_nil hempty, closeGroup_of_nil hempty']
      exact houter
    · have hempty' : f'.children ≠ [] := by
        intro hnil
        rw [hnil] at hchildren
        exact hempty (List.forall₂_nil_right_iff.mp hchildren)
      rw [closeGroup_of_ne_nil hempty, closeGroup_of_ne_nil hempty']
      have hgroup : (Clause.group f.join f.negated).Respelled (.group f'.join f'.negated) :=
        ⟨rfl, hf.join, hf.negated, rfl, rfl, Text.eqIgnoringAsciiCase_self _,
          Text.eqIgnoringAsciiCase_self _, .nil⟩
      exact houter.push (.node hgroup hchildren)

theorem Respelled.addClause (h : Respelled r r') {c c' : Clause} (hc : c.Respelled c') :
    Respelled (r.addClause c) (r'.addClause c') := by
  have hjoined : Clause.Respelled { c with join := r.join, negated := r.negated }
      { c' with join := r'.join, negated := r'.negated } :=
    ⟨hc.kind, h.join, h.negated, hc.method, hc.operator, hc.keyword, hc.value, hc.params⟩
  exact h.push (.node hjoined .nil)

/-- Another piece in another spelling leaves what has been read in another spelling. -/
theorem Respelled.step (h : Respelled r r') {p p' : Piece} (hp : p.Respelled p') :
    Respelled (r.step p) (r'.step p') := by
  cases hp with
  | clause hc => exact (h.addClause hc).clear
  | malformed => exact h.clear
  | unrecognized => exact h.clear
  | symbol hs =>
    cases p with
    | join j => exact ⟨rfl, h.negated, h.frames, h.root⟩
    | negation => exact ⟨h.join?, rfl, h.frames, h.root⟩
    | opening => exact h.openGroup.clear
    | closing => exact h.closeGroup.clear
    | stray c => exact h.clear
    | _ => simp [Piece.symbol?] at hs

end Reading

/-- A vocabulary that ignores the case of ASCII letters reads tokens in another spelling into the
same expressions in that spelling. -/
theorem parseTokens_respelled {v : Vocabulary} (hv : v.IgnoresCase) {ts ts' : List String}
    (h : List.Forall₂ Token.Respelled ts ts') :
    List.Forall₂ Expr.Respelled (parseTokens v ts) (parseTokens v ts') := by
  have hstart : Reading.start.Respelled Reading.start := ⟨rfl, rfl, .nil, .nil⟩
  have hread := List.rel_foldl (fun _ _ hr _ _ hp => hr.step hp) hstart (Piece.scan_respelled hv h)
  exact hread.root

namespace Registry

variable {ω : Type}

theorem named?_congr (r : Registry ω) (kind : PredicateKind) {t t' : String}
    (h : Text.lowercase t = Text.lowercase t') : r.named? kind t = r.named? kind t' := by
  rw [named?, named?, entry?_congr h]

/-- A registry finds its entries by small-letter forms. -/
theorem find?_congr (r : Registry ω) (kind : PredicateKind) {t t' : String}
    (h : eqIgnoringAsciiCase t t' = true) : r.find? kind t = r.find? kind t' := by
  have hlower := Text.lowercase_congr h
  have hnamed : ∀ kind, r.named? kind t = r.named? kind t' := fun kind => r.named?_congr kind hlower
  have hcontained : ∀ kind, r.contained? kind t = r.contained? kind t' := by
    intro kind
    rw [contained?, contained?, hlower]
  cases kind with
  | quantity => exact hnamed .quantity
  | method => exact hnamed .method
  | flag => rw [find?, find?, hnamed, hcontained]
  | query => rw [find?, find?, hnamed, hcontained]
  | scope =>
    -- The scope is what stands in front of the point, whose small-letter form is looked up.
    have hscope := Text.lowercase_splitAt?_congr h
    rw [find?, find?]
    cases hs : Text.splitAt? '.' t with
    | none =>
      rw [hs, Option.map_none] at hscope
      rw [Option.map_eq_none_iff.mp hscope.symm]
    | some front =>
      rw [hs, Option.map_some] at hscope
      obtain ⟨front', hs', hfront⟩ := Option.map_eq_some_iff.mp hscope.symm
      rw [hs', Option.bind_some, Option.bind_some]
      exact r.named?_congr .scope hfront.symm

/-- The bridge alone may tell names apart by the case of their letters. -/
theorem ignoresCase_vocabulary (r : Registry ω) (hr : r.bridge? = none) :
    r.vocabulary.IgnoresCase where
  classify h := by
    have hplain : ∀ t, r.classify t =
        if t.toList.contains '.' then
          ((r.resolve .scope t).map (PredicateKind.scope, ·)).or (r.classifyPlain t)
        else r.classifyPlain t := by
      intro t
      rw [Registry.classify, classifyDotted, hr]
      cases r.resolve .scope t <;> rfl
    simp only [vocabulary, hplain, Text.contains_point_congr h,
      classifyPlain, resolve, r.find?_congr _ h]
  isKnown h := by
    simp only [vocabulary, Registry.isKnown, entry?_congr (Text.lowercase_congr h)]

/-- Without a bridge, tokens in another spelling are read into expressions of the same shape, of the
same kinds and with the same joins, negations, predicates and comparators at every place, and with
names, literals and arguments that are equal up to the case of ASCII letters. -/
theorem parse_respelled (r : Registry ω) (hr : r.bridge? = none) {ts ts' : List String}
    (h : List.Forall₂ Token.Respelled ts ts') :
    List.Forall₂ Expr.Respelled (parseTokens r.vocabulary ts) (parseTokens r.vocabulary ts') :=
  parseTokens_respelled (r.ignoresCase_vocabulary hr) h

/-- A condition with a name in a longer one, an unknown name and a scope, in two spellings. -/
theorem parse_respelled_mixed :
    let r : Registry Unit := [⟨"Level", .quantity, .host, fun _ _ => .answer true⟩,
      ⟨"Dead", .flag, .host, fun _ _ => .answer true⟩,
      ⟨"Has", .query, .host, fun _ _ => .answer true⟩,
      ⟨"Facts", .scope, .facts, fun _ _ => .answer true⟩].foldl register initial
    let ts := ["Level", ">=", "6a", "and", "not", "(", "IsDead", "bogus", "or", "Has", "(", "Σa", ")",
      ")", "||", "Facts.x", "==", "Y", "true"]
    let ts' := ["LEVEL", ">=", "6A", "&&", "NOT", "(", "isdead", "Bogus", "Or", "has", "(", "ΣA", ")",
      ")", "OR", "facts.X", "==", "y", "TRUE"]
    List.Forall₂ Token.Respelled ts ts' ∧
      (Expr.listNodes (parseTokens r.vocabulary ts')).map (fun n => n.clause.method) =
        ["Level", "", "Dead", "Has", "Facts", "GetBoolean"] ∧
      List.Forall₂ Expr.Respelled (parseTokens r.vocabulary ts) (parseTokens r.vocabulary ts') := by
  intro r ts ts'
  have hts : List.Forall₂ Token.Respelled ts ts' := by
    simp only [ts, ts', List.forall₂_cons]
    decide +kernel
  exact ⟨hts, by decide +kernel, parse_respelled r rfl hts⟩

end Registry

end Criteria
