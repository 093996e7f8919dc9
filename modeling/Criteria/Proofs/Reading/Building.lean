import Criteria.Proofs.Reading.Scanning

/-!
# What expressions are built of

Expressions are built of pieces: a clause takes the join and the negation that wait, and a group has
those that waited when it was opened. So a property that each of these steps hands on holds of every
expression that is read, and of every expression inside one.
-/
namespace Criteria

namespace Piece

variable {v : Vocabulary}

/-- The symbol that a piece is. -/
def symbol? : Piece → Option Symbol
  | join .and => some .and
  | join .or => some .or
  | negation => some .not
  | opening => some .openParen
  | closing => some .closeParen
  | stray c => some (.compare c)
  | join .not | clause _ | malformed _ _ _ | unrecognized _ => none

/-- A word begins a clause or is dropped. -/
theorem word_cases (t : String) (ts : List String) :
    (∃ c, (word v t ts).1 = .clause c) ∨ (∃ kind flaw, (word v t ts).1 = .malformed t kind flaw) ∨
      (word v t ts).1 = .unrecognized t := by
  rw [word]
  split
  · exact Or.inl ⟨_, rfl⟩
  · split
    · rw [call]
      split
      · exact Or.inr (Or.inl ⟨_, _, rfl⟩)
      · split
        · exact Or.inr (Or.inl ⟨_, _, rfl⟩)
        · exact Or.inl ⟨_, rfl⟩
    · exact Or.inr (Or.inr rfl)

theorem symbol?_first (t : String) (ts : List String) :
    (first v t ts).1.symbol? = Symbol.ofToken? t := by
  cases ht : Symbol.ofToken? t with
  | some s => cases s <;> simp [first, ht, symbol?]
  | none =>
    rw [first_word ht]
    rcases word_cases (v := v) t ts with ⟨c, h⟩ | ⟨kind, flaw, h⟩ | h <;> rw [h, symbol?]

/-- The join that stands for a negation is never read. -/
theorem first_ne_join_not (t : String) (ts : List String) : (first v t ts).1 ≠ .join .not := by
  cases ht : Symbol.ofToken? t with
  | some s => cases s <;> simp [first, ht]
  | none =>
    rw [first_word ht]
    rcases word_cases (v := v) t ts with ⟨c, h⟩ | ⟨kind, flaw, h⟩ | h <;> simp [h]

theorem ofToken?_of_clause {t : String} {ts : List String} {c : Clause}
    (h : (first v t ts).1 = .clause c) : Symbol.ofToken? t = none := by
  rw [← symbol?_first (v := v) t ts, h, symbol?]

/-- A clause is a truth value, or a name with the arguments and the comparison that its kind reads
behind it. -/
theorem first_eq_clause {t : String} {ts : List String} {c : Clause}
    (h : (first v t ts).1 = .clause c) :
    ((Value.bool? t).isSome = true ∧ c = literal t) ∨
      ∃ kind method params n operator value m, Value.bool? t = none ∧
        v.classify t = some (kind, method) ∧ argumentsFor kind ts = .ok (params, n) ∧
        comparisonFor v kind (ts.drop n) = .ok (operator, value, m) ∧
        c = { keyword := t, kind := .call kind, method, operator, value, params } := by
  rw [first_word (ofToken?_of_clause h), word] at h
  cases hb : Value.bool? t with
  | some b =>
    rw [hb, if_pos Option.isSome_some, clause.injEq] at h
    exact Or.inl ⟨rfl, h.symm⟩
  | none =>
    rw [hb, if_neg (by simp)] at h
    cases hname : v.classify t with
    | none => simp [hname] at h
    | some found =>
      obtain ⟨kind, method⟩ := found
      simp only [hname, call] at h
      cases ha : argumentsFor kind ts with
      | error flaw => simp [ha] at h
      | ok found =>
        obtain ⟨params, n⟩ := found
        simp only [ha] at h
        cases hc : comparisonFor v kind (ts.drop n) with
        | error flaw => simp [hc] at h
        | ok found =>
          obtain ⟨operator, value, m⟩ := found
          simp only [hc, clause.injEq] at h
          exact Or.inr ⟨kind, method, params, n, operator, value, m, rfl, rfl, ha, hc, h.symm⟩

/-- What holds of the piece with which any tokens of some sort begin holds of all their pieces. -/
theorem forall_mem_scan {A : Piece → Prop} {Q : String → Prop}
    (hfirst : ∀ t ts, (∀ x ∈ t :: ts, Q x) → A (first v t ts).1) {ts : List String}
    (hts : ∀ t ∈ ts, Q t) : ∀ p ∈ scan v ts, A p.1 := by
  -- A piece passes over as many tokens as it likes, so the induction is on their number.
  induction hn : ts.length using Nat.strong_induction_on generalizing ts with
  | _ n ih =>
    cases ts with
    | nil => simp
    | cons t ts =>
      rw [scan_cons]
      refine List.forall_mem_cons.mpr ⟨hfirst t ts hts, ih _ ?_ (fun x hx => hts x ?_) rfl⟩
      · simp only [List.length_cons, List.length_drop] at hn ⊢
        omega
      · exact List.mem_cons_of_mem t (List.mem_of_mem_drop hx)

end Piece

namespace Reading

theorem closeGroup_of_nil {f : Frame} (hf : f.children = []) (join? : Option Join)
    (negated : Bool) (fs : List Frame) (root : List Expr) :
    closeGroup ⟨join?, negated, f :: fs, root⟩ = ⟨join?, negated, fs, root⟩ :=
  if_pos (by simpa using hf)

theorem closeGroup_of_ne_nil {f : Frame} (hf : f.children ≠ []) (join? : Option Join)
    (negated : Bool) (fs : List Frame) (root : List Expr) :
    closeGroup ⟨join?, negated, f :: fs, root⟩ =
      push ⟨join?, negated, fs, root⟩ (.group f.join f.negated f.children) :=
  if_neg (by simpa using hf)

/-- What a property of expressions owes to the pieces they are built of: `A` says which pieces are
read, and `W` which joins and negations may wait. -/
structure Builds (A : Piece → Prop) (W : Join → Bool → Prop) (P : Expr → Prop) : Prop where
  idle : W .and false
  join {j : Join} : A (.join j) → ∀ {waiting : Join} {negated : Bool}, W waiting negated →
    W j negated
  negation : A .negation → ∀ {j : Join} {negated : Bool}, W j negated → W j true
  leaf {c : Clause} : A (.clause c) → ∀ {j : Join} {negated : Bool}, W j negated →
    P (.leaf { c with join := j, negated })
  group {j : Join} {negated : Bool} {es : List Expr} : W j negated → es ≠ [] → (∀ e ∈ es, P e) →
    P (.group j negated es)

/-- What waits may do so, and all expressions that have been read have a property. -/
structure Holds (W : Join → Bool → Prop) (P : Expr → Prop) (r : Reading) : Prop where
  waiting : W r.join r.negated
  root : ∀ e ∈ r.root, P e
  frames : ∀ f ∈ r.frames, W f.join f.negated ∧ ∀ e ∈ f.children, P e

variable {A : Piece → Prop} {W : Join → Bool → Prop} {P : Expr → Prop} {r : Reading}

theorem Holds.push (h : r.Holds W P) {e : Expr} (he : P e) : (r.push e).Holds W P := by
  rcases r with ⟨join?, negated, _ | ⟨f, fs⟩, root⟩
  · refine ⟨h.waiting, fun x hx => ?_, h.frames⟩
    rcases List.mem_append.mp hx with hx | hx
    · exact h.root x hx
    · exact List.mem_singleton.mp hx ▸ he
  · obtain ⟨hf, hfs⟩ := List.forall_mem_cons.mp h.frames
    refine ⟨h.waiting, h.root, List.forall_mem_cons.mpr ⟨⟨hf.1, fun x hx => ?_⟩, hfs⟩⟩
    rcases List.mem_append.mp hx with hx | hx
    · exact hf.2 x hx
    · exact List.mem_singleton.mp hx ▸ he

theorem Holds.openGroup (h : r.Holds W P) : r.openGroup.Holds W P :=
  ⟨h.waiting, h.root, List.forall_mem_cons.mpr ⟨⟨h.waiting, by simp⟩, h.frames⟩⟩

theorem Builds.clear (hb : Builds A W P) (h : r.Holds W P) : r.clear.Holds W P :=
  ⟨hb.idle, h.root, h.frames⟩

theorem Builds.closeGroup (hb : Builds A W P) (h : r.Holds W P) : r.closeGroup.Holds W P := by
  rcases r with ⟨join?, negated, _ | ⟨f, fs⟩, root⟩
  · exact h
  · obtain ⟨hf, hfs⟩ := List.forall_mem_cons.mp h.frames
    have houter : Holds W P ⟨join?, negated, fs, root⟩ := ⟨h.waiting, h.root, hfs⟩
    by_cases hempty : f.children = []
    · rw [closeGroup_of_nil hempty]
      exact houter
    · rw [closeGroup_of_ne_nil hempty]
      exact houter.push (hb.group hf.1 hempty hf.2)

/-- Reading one more piece keeps the property. -/
theorem Builds.step (hb : Builds A W P) {p : Piece} (hp : A p) (h : r.Holds W P) :
    (r.step p).Holds W P := by
  cases p with
  | join j => exact ⟨hb.join hp h.waiting, h.root, h.frames⟩
  | negation => exact ⟨hb.negation hp h.waiting, h.root, h.frames⟩
  | opening => exact hb.clear h.openGroup
  | closing => exact hb.clear (hb.closeGroup h)
  | clause c => exact hb.clear (h.push (hb.leaf hp h.waiting))
  | stray c => exact hb.clear h
  | malformed token kind flaw => exact hb.clear h
  | unrecognized token => exact hb.clear h

theorem Builds.foldl (hb : Builds A W P) {pieces : List (Piece × Nat)} (hp : ∀ p ∈ pieces, A p.1)
    (h : r.Holds W P) : (pieces.foldl (fun r p => r.step p.1) r).Holds W P := by
  induction pieces generalizing r with
  | nil => exact h
  | cons p pieces ih =>
    obtain ⟨hfirst, hrest⟩ := List.forall_mem_cons.mp hp
    exact ih hrest (hb.step hfirst h)

/-- All expressions that are read have the property. -/
theorem Builds.forall_parse (hb : Builds A W P) {v : Vocabulary} {ts : List String}
    (hp : ∀ p ∈ Piece.scan v ts, A p.1) : ∀ e ∈ parseTokens v ts, P e := by
  have hstart : Holds W P start := ⟨hb.idle, by simp [start], by simp [start]⟩
  exact (hb.foldl hp hstart).root

end Reading

namespace Expr

mutual

/-- An expression and all expressions inside it. -/
def nodes : Expr → List Expr
  | node c es => node c es :: listNodes es

def listNodes : List Expr → List Expr
  | [] => []
  | e :: es => nodes e ++ listNodes es

end

theorem mem_nodes_self (e : Expr) : e ∈ e.nodes := by
  cases e
  simp [nodes]

theorem mem_listNodes {n : Expr} {es : List Expr} : n ∈ listNodes es ↔ ∃ e ∈ es, n ∈ e.nodes := by
  induction es with
  | nil => simp [listNodes]
  | cons e es ih => simp [listNodes, ih]

theorem forall_mem_listNodes {N : Expr → Prop} {es : List Expr} :
    (∀ n ∈ listNodes es, N n) ↔ ∀ e ∈ es, ∀ n ∈ e.nodes, N n := by
  constructor
  · exact fun h e he n hn => h n (mem_listNodes.mpr ⟨e, he, hn⟩)
  · intro h n hn
    obtain ⟨e, he, hne⟩ := mem_listNodes.mp hn
    exact h e he n hne

theorem forall_mem_nodes {N : Expr → Prop} {c : Clause} {es : List Expr} :
    (∀ n ∈ (node c es).nodes, N n) ↔ N (node c es) ∧ ∀ e ∈ es, ∀ n ∈ e.nodes, N n := by
  rw [nodes, List.forall_mem_cons, forall_mem_listNodes]

end Expr

/-- What is handed on to each expression holds of all expressions inside those that are read. -/
theorem Reading.Builds.forall_nodes {A : Piece → Prop} {W : Join → Bool → Prop} {N : Expr → Prop}
    (hb : Builds A W N) {v : Vocabulary} {ts : List String}
    (hp : ∀ p ∈ Piece.scan v ts, A p.1) : ∀ n ∈ Expr.listNodes (parseTokens v ts), N n := by
  have hnodes : Builds A W fun e => ∀ n ∈ e.nodes, N n :=
    { idle := hb.idle
      join := hb.join
      negation := hb.negation
      leaf := fun hc _ _ hw => Expr.forall_mem_nodes.mpr ⟨hb.leaf hc hw, by simp⟩
      group := fun hw hne hes => by
        have hown := fun e he => hes e he e e.mem_nodes_self
        exact Expr.forall_mem_nodes.mpr ⟨hb.group hw hne hown, hes⟩ }
  exact Expr.forall_mem_listNodes.mpr (hnodes.forall_parse hp)

end Criteria
