import Criteria.Proofs.Evaluation.Asking
import Criteria.Proofs.Reading.Concatenation
import Criteria.Proofs.Reading.RoundTrip

/-!
# What the lists of expressions begin with

A list that begins with an `or` is true by itself. A condition that puts no `or` where an expression
begins still makes such a list if what stands in front of an `or` is dropped: the `or` waits for the
next expression, which may be the first of its list. If only such things are dropped in front of an
`or` as have an expression in front of them, all lists begin with an `and`, and then nothing but a
positive answer makes a condition without negations true.
-/
namespace Criteria

/-- No `or` stands at the beginning, or directly behind an opening parenthesis or a connective. -/
structure OrsPlaced (ts : List String) : Prop where
  head : ∀ t ∈ ts.head?, Symbol.ofToken? t ≠ some .or
  next : ts.IsChain fun t t' =>
    Symbol.ofToken? t = some .openParen ∨ Connective t → Symbol.ofToken? t' ≠ some .or

namespace Piece

variable {v : Vocabulary}

/-- Whether the next expression begins behind the piece. -/
def leads : Piece → Bool
  | opening => true
  | p => p.waits

theorem leads_first {t : String} {ts : List String} (h : (first v t ts).1.leads = true) :
    (Symbol.ofToken? t = some .openParen ∨ Connective t) ∧ (first v t ts).2 = 0 := by
  have hsymbol : Symbol.ofToken? t = some .openParen ∨ Connective t := by
    cases hp : (first v t ts).1 with
    | opening => exact Or.inl (by rw [← symbol?_first (v := v) t ts, hp, symbol?])
    | _ =>
      have hwaits : (first v t ts).1.waits = true := by
        rw [hp] at h ⊢
        exact h
      exact Or.inr (connective_of_waits hwaits)
  refine ⟨hsymbol, ?_⟩
  obtain ⟨s, hs⟩ : ∃ s, Symbol.ofToken? t = some s := by
    rcases hsymbol with hopen | hconnective
    · exact ⟨_, hopen⟩
    · exact hconnective.ends.imp fun s hs => hs.1
  exact (first_symbol hs ts).1

theorem ofToken?_of_or {t : String} {ts : List String} (h : (first v t ts).1 = .join .or) :
    Symbol.ofToken? t = some .or := by
  rw [← symbol?_first (v := v) t ts, h, symbol?]

theorem head_scan_ne_or {ts : List String} (h : ∀ t ∈ ts.head?, Symbol.ofToken? t ≠ some .or) :
    ∀ p ∈ (scan v ts).head?, p.1 ≠ .join .or := by
  cases ts with
  | nil => simp
  | cons t ts =>
    rw [scan_cons]
    intro p hp hor
    obtain rfl := Option.some.inj hp
    exact h t rfl (ofToken?_of_or hor)

/-- Where no `or` is misplaced among the tokens, none is among the pieces. -/
theorem isChain_scan {ts : List String}
    (h : ts.IsChain fun t t' =>
      Symbol.ofToken? t = some .openParen ∨ Connective t → Symbol.ofToken? t' ≠ some .or) :
    (scan v ts).IsChain fun p q => p.1.leads = true → q.1 ≠ .join .or := by
  induction hn : ts.length using Nat.strong_induction_on generalizing ts with
  | _ n ih =>
    cases ts with
    | nil => simp
    | cons t ts =>
      obtain ⟨hnext, hts⟩ := List.isChain_cons.mp h
      rw [scan_cons, List.isChain_cons]
      refine ⟨fun q hq hleads => ?_, ih _ ?_ (hts.drop _) rfl⟩
      · obtain ⟨hsymbol, hsize⟩ := leads_first hleads
        rw [hsize, List.drop_zero] at hq
        exact head_scan_ne_or (fun t' ht' => hnext t' ht' hsymbol) q hq
      · simp only [List.length_cons, List.length_drop] at hn ⊢
        omega

end Piece

namespace Reading

/-- The list that the next expression is put into. -/
def innermost (r : Reading) : List Expr :=
  match r.frames with
  | [] => r.root
  | f :: _ => f.children

/-- Whether each `or` that comes directly behind something dropped has an expression in front of it
in its list. What is dropped is what there is something to report about, wherever it stands. -/
def keepsBeforeOr (r : Reading) : List (Piece × Nat) → Bool
  | [] => true
  | [_] => true
  | p :: q :: pieces =>
    (q.1 != .join .or || (r.event? 0 p.1).isNone || !(r.step p.1).innermost.isEmpty) &&
      (r.step p.1).keepsBeforeOr (q :: pieces)

/-- A list is led by `and`, also if an expression with the given join is put to it. -/
def Ready (j : Join) (es : List Expr) : Prop :=
  Expr.listLedByAnd es = true ∧ (es = [] → j = .and)

/-- All open lists are ready: the innermost for what has the given join, and each of the others for
the group that stands open in it. -/
def LedWithin (root : List Expr) : Join → List Frame → Prop
  | j, [] => Ready j root
  | j, f :: fs => Ready j f.children ∧ LedWithin root f.join fs

/-- All lists are led by `and`, whatever is put to them. -/
def Led (r : Reading) : Prop := LedWithin r.root r.join r.frames

theorem Ready.append {j : Join} {es : List Expr} (h : Ready j es) {e : Expr}
    (hj : e.clause.join = j) (he : e.ledByAnd = true) : Ready .and (es ++ [e]) := by
  obtain ⟨hled, hempty⟩ := h
  obtain ⟨hfirst, hes⟩ := (Expr.listLedByAnd_iff es).mp hled
  refine ⟨(Expr.listLedByAnd_iff _).mpr ⟨?_, ?_⟩, by simp⟩
  · cases es with
    | nil => simpa [hj] using hempty rfl
    | cons x es => simpa using hfirst
  · simpa [or_imp, forall_and, he] using hes

variable {root : List Expr} {j : Join} {frames : List Frame}

/-- The root is the outermost of the open lists. -/
theorem LedWithin.outermost (h : LedWithin root j frames) : Expr.listLedByAnd root = true := by
  induction frames generalizing j with
  | nil => exact h.1
  | cons f fs ih => exact ih h.2

/-- What waits does not matter where something stands in the list already. -/
theorem LedWithin.change {r : Reading} (h : LedWithin r.root j r.frames) {j' : Join}
    (hj : r.innermost = [] → j' = .and) : LedWithin r.root j' r.frames := by
  rcases r with ⟨join?, negated, _ | ⟨f, fs⟩, root⟩
  · exact ⟨h.1, hj⟩
  · exact ⟨⟨h.1.1, hj⟩, h.2⟩

theorem Led.clear {r : Reading} (h : r.Led) : r.clear.Led :=
  LedWithin.change (r := r) h fun _ => rfl

theorem LedWithin.push {r : Reading} (h : LedWithin r.root j r.frames) {e : Expr}
    (hj : e.clause.join = j) (he : e.ledByAnd = true) : (r.push e).clear.Led := by
  rcases r with ⟨join?, negated, _ | ⟨f, fs⟩, root⟩
  · exact Ready.append h hj he
  · exact ⟨Ready.append h.1 hj he, h.2⟩

theorem Led.openGroup {r : Reading} (h : r.Led) : r.openGroup.clear.Led := ⟨⟨rfl, fun _ => rfl⟩, h⟩

theorem Led.closeGroup {r : Reading} (h : r.Led) : r.closeGroup.clear.Led := by
  rcases r with ⟨join?, negated, _ | ⟨f, fs⟩, root⟩
  · exact h.clear
  · obtain ⟨⟨hchildren, -⟩, houter⟩ := h
    by_cases hempty : f.children = []
    · rw [closeGroup_of_nil hempty]
      exact LedWithin.change (r := ⟨join?, negated, fs, root⟩) houter fun _ => rfl
    · rw [closeGroup_of_ne_nil hempty]
      exact LedWithin.push (r := ⟨join?, negated, fs, root⟩) houter rfl hchildren

/-- A piece keeps all lists led by `and`, unless it is an `or` for a list that is still empty. -/
theorem Led.step {r : Reading} (h : r.Led) {p : Piece} (hnot : p ≠ .join .not)
    (hor : p = .join .or → r.innermost ≠ []) : (r.step p).Led := by
  cases p with
  | join j =>
    refine LedWithin.change (r := r) h fun hempty => ?_
    cases j with
    | and => rfl
    | or => exact absurd hempty (hor rfl)
    | not => contradiction
  | negation => exact h
  | opening => exact h.openGroup
  | closing => exact h.closeGroup
  | clause c => exact LedWithin.push (r := r) h rfl rfl
  | stray c => exact h.clear
  | malformed token kind flaw => exact h.clear
  | unrecognized token => exact h.clear

@[simp] theorem innermost_clear (r : Reading) : r.clear.innermost = r.innermost := rfl

theorem innermost_push (r : Reading) (e : Expr) : (r.push e).innermost ≠ [] := by
  rcases r with ⟨join?, negated, _ | ⟨f, fs⟩, root⟩ <;> simp [push, innermost]

/-- Behind a clause or a group, something stands in the list. -/
theorem innermost_step {r : Reading} {p : Piece} (hleads : p.leads = false)
    (hkept : r.event? 0 p = none) : (r.step p).innermost ≠ [] := by
  cases p with
  | clause c => exact innermost_push r _
  | closing =>
    rcases r with ⟨join?, negated, _ | ⟨f, fs⟩, root⟩
    · contradiction
    · have hne : f.children ≠ [] := by simpa [event?] using hkept
      rw [step, innermost_clear, closeGroup_of_ne_nil hne]
      exact innermost_push _ _
  | _ => contradiction

/-- All lists stay led by `and` while pieces are read. What is known of the next piece is that an
`or` comes with something in front of it. -/
theorem Led.foldl {r : Reading} (h : r.Led) {pieces : List (Piece × Nat)}
    (hnot : ∀ p ∈ pieces, p.1 ≠ .join .not)
    (hchain : pieces.IsChain fun p q => p.1.leads = true → q.1 ≠ .join .or)
    (hfirst : ∀ p ∈ pieces.head?, p.1 = .join .or → r.innermost ≠ [])
    (hkept : r.keepsBeforeOr pieces = true) : (pieces.foldl (fun r p => r.step p.1) r).Led := by
  induction pieces generalizing r with
  | nil => exact h
  | cons p pieces ih =>
    obtain ⟨hp, hpieces⟩ := List.forall_mem_cons.mp hnot
    obtain ⟨hnext, hchain⟩ := List.isChain_cons.mp hchain
    have hstep := h.step hp (hfirst p rfl)
    cases pieces with
    | nil => exact hstep
    | cons q pieces =>
      simp only [keepsBeforeOr, Bool.and_eq_true, Bool.or_eq_true] at hkept
      refine ih hstep hpieces hchain (fun x hx hor => ?_) hkept.2
      obtain rfl := Option.some.inj hx
      have hleads : p.1.leads = false := Bool.eq_false_iff.mpr fun hleads => hnext q rfl hleads hor
      rcases hkept.1 with (hne | hnone) | hfull
      · simp [hor] at hne
      · exact innermost_step hleads (by simpa using hnone)
      · simpa using hfull

end Reading

/-- The lists that are read are led by `and`. -/
theorem parseTokens_ledByAnd {v : Vocabulary} {ts : List String} (hors : OrsPlaced ts)
    (hkept : Reading.start.keepsBeforeOr (Piece.scan v ts) = true) :
    Expr.listLedByAnd (parseTokens v ts) = true := by
  have hstart : Reading.start.Led := ⟨rfl, fun _ => rfl⟩
  have hnot : ∀ p ∈ Piece.scan v ts, p.1 ≠ .join .not :=
    Piece.forall_mem_scan (A := (· ≠ .join .not)) (Q := fun _ => True)
      (fun t ts _ => Piece.first_ne_join_not t ts) (by simp)
  exact (hstart.foldl hnot (Piece.isChain_scan hors.next)
    (fun p hp hor => absurd hor (Piece.head_scan_ne_or hors.head p hp)) hkept).outermost

namespace Expr

theorem head_ne_or_of_led {es : List Expr} (h : listLedByAnd es = true) :
    ∀ e ∈ es.head?, e.clause.join ≠ .or := by
  intro e he
  rw [((listLedByAnd_iff es).mp h).1 e he]
  simp

/-- An expression that is not negated. -/
def Affirmed (e : Expr) : Prop := e.clause.join ≠ .not ∧ e.clause.negated = false

/-- Without a negation among the tokens, nothing is negated. -/
theorem affirmed_parseTokens (v : Vocabulary) {ts : List String}
    (hts : ∀ t ∈ ts, Symbol.ofToken? t ≠ some .not) :
    ∀ e ∈ listNodes (parseTokens v ts), e.Affirmed := by
  have hbuilds : Reading.Builds (fun p => p ≠ .join .not ∧ p ≠ .negation)
      (fun j negated => j ≠ .not ∧ negated = false) Affirmed :=
    { idle := by simp
      join := fun hp _ _ hw => ⟨fun hj => hp.1 (hj ▸ rfl), hw.2⟩
      negation := fun hp => absurd rfl hp.2
      leaf := fun _ _ _ hw => hw
      group := fun hw _ _ => hw }
  refine hbuilds.forall_nodes
    (Piece.forall_mem_scan (A := fun p => p ≠ .join .not ∧ p ≠ .negation) (fun t ts hts => ?_) hts)
  refine ⟨Piece.first_ne_join_not t ts, fun hp => hts t (by simp) ?_⟩
  rw [← Piece.symbol?_first (v := v) t ts, hp, Piece.symbol?]

end Expr

theorem Outcome.isTrue_iff (o : Outcome) : o.isTrue = true ↔ o = .answer true := by
  cases o <;> simp [isTrue]

namespace Evaluation

variable (ask : Clause → Dispatch)

/-- The rest of a list makes a result true only by a positive answer inside, if no list in it begins
with an `or` and nothing in it is negated. -/
theorem exists_isTrue_foldFrom (running first : Bool) (es : List Expr)
    (hled : ∀ e ∈ es, e.ledByAnd = true) (haffirmed : ∀ e ∈ es, ∀ n ∈ e.nodes, n.Affirmed)
    (hfirst : first = true → ∀ e ∈ es.head?, e.clause.join ≠ .or)
    (htrue : (foldFrom ask running first es).value = true) :
    running = true ∨ ∃ d ∈ (foldFrom ask running first es).calls, d.isTrue = true := by
  induction es using Expr.list_induction generalizing running first with
  | nil => exact Or.inl (by simpa [foldFrom] using htrue)
  | node c inner rest hinner hrest =>
    obtain ⟨hlede, hleds⟩ := List.forall_mem_cons.mp hled
    obtain ⟨haffirmede, haffirmeds⟩ := List.forall_mem_cons.mp haffirmed
    obtain ⟨⟨hjoin, hnegated⟩, hinside⟩ := Expr.forall_mem_nodes.mp haffirmede
    rw [Expr.clause_node] at hjoin hnegated
    have hown (hthis : (evaluateExpr ask (.node c inner)).value = true) :
        ∃ d ∈ (evaluateExpr ask (.node c inner)).calls, d.isTrue = true := by
      rw [evaluateExpr] at hthis ⊢
      by_cases hc : c.isGroup = true
      · simp only [hc, if_true, hnegated, Bool.bne_false] at hthis ⊢
        have hfound := hinner false true ((Expr.listLedByAnd_iff inner).mp hlede).2 hinside
          (fun _ => Expr.head_ne_or_of_led hlede) hthis
        exact hfound.resolve_left (by simp)
      · simp only [hc, hnegated, Bool.bne_false] at hthis ⊢
        exact ⟨ask c, by simp, hthis⟩
    rw [foldFrom] at htrue ⊢
    split at htrue
    · next hstop =>
      obtain ⟨hor, hrunning⟩ := Bool.and_eq_true_iff.mp hstop
      rcases Bool.or_eq_true_iff.mp hrunning with hrunning | hfirst'
      · exact Or.inl hrunning
      · exact absurd (beq_iff_eq.mp hor) (hfirst hfirst' _ rfl)
    · next hstop =>
      rw [if_neg hstop]
      split at htrue
      · next hskip =>
        rw [if_pos hskip]
        exact hrest running false hleds haffirmeds (by simp) htrue
      · next hskip =>
        rw [if_neg hskip]
        simp only [Expr.clause_node, beq_eq_false_iff_ne.mpr hjoin, Bool.bne_false] at htrue ⊢
        right
        rcases hrest _ false hleds haffirmeds (by simp) htrue with hthis | ⟨d, hd, hanswer⟩
        · obtain ⟨d, hd, hanswer⟩ := hown hthis
          exact ⟨d, List.mem_append_left _ hd, hanswer⟩
        · exact ⟨d, List.mem_append_right _ hd, hanswer⟩

/-- A list that is true has a positive answer inside. -/
theorem exists_isTrue_evaluate {es : List Expr} (hled : Expr.listLedByAnd es = true)
    (haffirmed : ∀ n ∈ Expr.listNodes es, n.Affirmed) (htrue : (evaluate ask es).value = true) :
    ∃ d ∈ (evaluate ask es).calls, d.isTrue = true := by
  have hleds := ((Expr.listLedByAnd_iff es).mp hled).2
  have hfound := exists_isTrue_foldFrom ask false true es hleds
    (Expr.forall_mem_listNodes.mp haffirmed) (fun _ => Expr.head_ne_or_of_led hled) htrue
  exact hfound.resolve_left (by simp)

end Evaluation

namespace Registry

variable {ω : Type}

/-- Every call asks about a clause. -/
theorem exists_dispatch_of_mem_calls (r : Registry ω) (world : ω) {es : List Expr} {d : Dispatch}
    (hd : d ∈ (r.evaluate world es).calls) : ∃ c, d = r.dispatch world c := by
  rw [evaluate, Evaluation.evaluate, Evaluation.calls_foldFrom] at hd
  obtain ⟨p, -, rfl⟩ := List.mem_map.mp hd
  exact ⟨p.2, rfl⟩

/-- Where nobody can be asked, the outcome is an error. -/
theorem report_of_nobody (r : Registry ω) (world : ω) (c : Clause)
    (h : (r.dispatch world c).callee = .nobody) :
    (r.dispatch world c).report = .error (.unknown c.method) := by
  rw [dispatch] at h ⊢
  split at h
  · contradiction
  · contradiction
  · rfl

/-- A positive answer is given by somebody. -/
theorem answer_of_isTrue_dispatch (r : Registry ω) (world : ω) (c : Clause)
    (h : (r.dispatch world c).isTrue = true) :
    (r.dispatch world c).callee ≠ .nobody ∧
      (r.dispatch world c).report.outcome = .answer true := by
  have houtcome := (Outcome.isTrue_iff _).mp h
  refine ⟨fun hnobody => ?_, houtcome⟩
  rw [r.report_of_nobody world c hnobody] at houtcome
  contradiction

/-- Where no `or` is misplaced, all lists of a condition are led by `and`, if nothing is dropped in
front of an `or` that would become the first join of a list. If such a condition without negations
is true, somebody has been asked and has said so. -/
theorem parse_ledByAnd (r : Registry ω) (s : String) (hors : OrsPlaced (tokenize s))
    (hkept : Reading.start.keepsBeforeOr (Piece.scan r.vocabulary (tokenize s)) = true) :
    Expr.listLedByAnd (parse r.vocabulary s) = true ∧
      ((∀ t ∈ tokenize s, Symbol.ofToken? t ≠ some .not) → ∀ world, r.check world s = true →
        ∃ d ∈ (r.evaluate world (parse r.vocabulary s)).calls,
          d.callee ≠ .nobody ∧ d.report.outcome = .answer true) := by
  have hled := parseTokens_ledByAnd hors hkept
  refine ⟨hled, fun hnot world htrue => ?_⟩
  obtain ⟨d, hd, hanswer⟩ := Evaluation.exists_isTrue_evaluate (r.dispatch world) hled
    (Expr.affirmed_parseTokens r.vocabulary hnot) htrue
  obtain ⟨c, rfl⟩ := r.exists_dispatch_of_mem_calls world hd
  exact ⟨_, hd, r.answer_of_isTrue_dispatch world c hanswer⟩

theorem parse_ledByAnd_lenient :
    let r : Registry Unit := [⟨"Level", .quantity, .host, fun _ c => .answer (c.value == "7")⟩,
      ⟨"Has", .query, .host, fun _ _ => .answer false⟩].foldl register initial
    let s := "Bogus Has(a) Has or (Nope (Level < 5 () || Has(&& true) or ) Has or Level == 7)"
    OrsPlaced (tokenize s) ∧
      Reading.start.keepsBeforeOr (Piece.scan r.vocabulary (tokenize s)) = true ∧
      Expr.listLedByAnd (parse r.vocabulary s) = true ∧
      ∃ d ∈ (r.evaluate () (parse r.vocabulary s)).calls,
        d.callee ≠ .nobody ∧ d.report.outcome = .answer true := by
  intro r s
  have htokens : tokenize s = ["Bogus", "Has", "(", "a", ")", "Has", "or", "(", "Nope", "(", "Level",
      "<", "5", "(", ")", "||", "Has", "(", "&&", "true", ")", "or", ")", "Has", "or", "Level", "==",
      "7", ")"] := by decide +kernel
  have hors : OrsPlaced (tokenize s) := by
    rw [htokens]
    exact ⟨by decide, by decide⟩
  have hkept : Reading.start.keepsBeforeOr (Piece.scan r.vocabulary (tokenize s)) = true := by
    rw [htokens]
    decide +kernel
  have hnot : ∀ t ∈ tokenize s, Symbol.ofToken? t ≠ some .not := by
    rw [htokens]
    decide
  have htrue : r.check () s = true := by
    rw [check, parse, htokens]
    decide +kernel
  obtain ⟨hled, hanswer⟩ := parse_ledByAnd r s hors hkept
  exact ⟨hors, hkept, hled, hanswer hnot () htrue⟩

/-- A name that nobody knows is dropped, and the `or` behind it becomes the first join. So a
condition is true, although nobody has been asked. -/
theorem not_parse_ledByAnd :
    let r : Registry Unit := initial
    let s := "Bogus or false"
    OrsPlaced (tokenize s) ∧ (∀ t ∈ tokenize s, Symbol.ofToken? t ≠ some .not) ∧
      Expr.listLedByAnd (parse r.vocabulary s) = false ∧
      r.check () s = true ∧ (r.evaluate () (parse r.vocabulary s)).calls = [] := by
  refine ⟨⟨?_, ?_⟩, ?_, ?_, ?_, ?_⟩ <;> decide +kernel

end Registry

end Criteria
