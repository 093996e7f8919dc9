import Criteria.Evaluation
import Criteria.Number.Limited
import Mathlib.Data.List.SplitBy

/-!
# What a list of expressions means

A list is cut in front of each `or`. It is true if all siblings of one of the pieces are, so it is
a disjunction of conjunctions. This differs from taking the siblings from left to right where an
`or` stands behind a true result, which ends the list.
-/
namespace Criteria

namespace Evaluation

variable (ask : Clause → Dispatch)

/-- What a sibling adds to its list: its own value, once more negated by a join by `not`. -/
def siblingValue (e : Expr) : Bool := (evaluateExpr ask e).value != (e.clause.join == .not)

/-- Without a join by `not` it is the value of the expression. -/
theorem siblingValue_of_ne_not (e : Expr) (h : e.clause.join ≠ .not) :
    siblingValue ask e = (evaluateExpr ask e).value := by
  rw [siblingValue, beq_eq_false_iff_ne.mpr h, Bool.bne_false]

theorem foldFrom_nil (running first : Bool) : foldFrom ask running first [] = ⟨running, []⟩ := by
  rw [foldFrom]

/-- Behind the first sibling an `or` adds to the result and any other join restricts it, whether
or not the sibling is asked about. -/
theorem foldFrom_value_cons (running : Bool) (e : Expr) (rest : List Expr) :
    (foldFrom ask running false (e :: rest)).value =
      if e.clause.join = .or then running || (foldFrom ask (siblingValue ask e) false rest).value
      else (foldFrom ask (running && siblingValue ask e) false rest).value := by
  rw [foldFrom]
  by_cases hj : e.clause.join = .or <;> cases running <;> simp [hj, siblingValue]

/-- The first sibling decides by itself: a leading `or` makes the list true. -/
theorem evaluate_value_cons (e : Expr) (rest : List Expr) :
    (evaluate ask (e :: rest)).value =
      if e.clause.join = .or then true
      else (foldFrom ask (siblingValue ask e) false rest).value := by
  rw [evaluate, foldFrom]
  by_cases hj : e.clause.join = .or <;> simp [hj, siblingValue]

/-- An expression by itself. -/
theorem evaluate_singleton {e : Expr} (hjoin : e.clause.join = .and) :
    (evaluate ask [e]).value = (evaluateExpr ask e).value := by
  rw [evaluate_value_cons, if_neg (by simp [hjoin]), foldFrom_nil,
    siblingValue_of_ne_not ask e (by simp [hjoin])]

end Evaluation

namespace Meaning

variable {α : Type}

/-- The list cut in front of each `or`. -/
def segments (join : α → Join) (xs : List α) : List (List α) := xs.splitBy fun _ x => join x != .or

/-- True if all values of one segment are, or if the list begins with an `or`. -/
def disjunction (join : α → Join) (value : α → Bool) : List α → Bool
  | [] => false
  | x :: xs => join x == .or || (segments join (x :: xs)).any fun segment => segment.all value

mutual

/-- The value of an expression on its own, given the answers about clauses. -/
def truth (answer : Clause → Bool) : Expr → Bool
  | .node c es =>
    (if c.isGroup then disjunction Prod.fst Prod.snd (siblings answer es) else answer c) !=
      c.negated

/-- The joins of siblings, and what each adds to the list. -/
def siblings (answer : Clause → Bool) : List Expr → List (Join × Bool)
  | [] => []
  | e :: es =>
    (e.clause.join, truth answer e != (e.clause.join == .not)) :: siblings answer es

end

/-- The value of a list of siblings. -/
def listTruth (answer : Clause → Bool) (es : List Expr) : Bool :=
  disjunction Prod.fst Prod.snd (siblings answer es)

/-- A segment that is true stays one while the rest of the list is cut. -/
theorem any_loop_of_any (join : α → Join) (value : α → Bool) (xs : List α) (x : α)
    (segment : List α) (done : List (List α)) (h : done.any (fun s => s.all value) = true) :
    (List.splitBy.loop (fun _ x => join x != .or) xs x segment done).any (fun s => s.all value) =
      true := by
  induction xs generalizing x segment done with
  | nil => simp only [List.splitBy.loop, List.reverse_cons, List.any_append, List.any_reverse, h,
      Bool.true_or]
  | cons y ys ih =>
    cases hy : (join y != .or) with
    | true => simpa only [List.splitBy.loop, hy] using ih y (x :: segment) done h
    | false =>
      simp only [List.splitBy.loop, hy]
      apply ih
      rw [List.any_cons, h, Bool.or_true]

/-- Cutting a list into segments keeps pace with the fold. So far no whole segment was true, and the
running result says whether the siblings of the last one are. -/
theorem any_loop (ask : Clause → Dispatch) (rest : List Expr) (e : Expr) (segment : List Expr)
    (done : List (List Expr))
    (h : done.any (fun s => s.all (Evaluation.siblingValue ask)) = false) :
    (List.splitBy.loop (fun _ x => x.clause.join != .or) rest e segment done).any
        (fun s => s.all (Evaluation.siblingValue ask)) =
      (Evaluation.foldFrom ask ((e :: segment).all (Evaluation.siblingValue ask)) false
        rest).value := by
  induction rest generalizing e segment done with
  | nil =>
    rw [Evaluation.foldFrom_nil, List.splitBy.loop, List.any_reverse, List.any_cons, h,
      Bool.or_false, List.all_reverse]
  | cons x rest ih =>
    rw [Evaluation.foldFrom_value_cons]
    by_cases hx : x.clause.join = .or
    · rw [if_pos hx]
      simp only [List.splitBy.loop, hx, bne_self_eq_false]
      cases hs : (e :: segment).all (Evaluation.siblingValue ask) with
      | true =>
        rw [Bool.true_or]
        apply any_loop_of_any (fun x : Expr => x.clause.join)
        rw [List.any_cons, List.all_reverse, hs, Bool.true_or]
      | false =>
        rw [Bool.false_or, ih x [] _ (by rw [List.any_cons, List.all_reverse, hs, h]; rfl)]
        simp only [List.all_cons, List.all_nil, Bool.and_true]
    · rw [if_neg hx]
      have hne : (x.clause.join != .or) = true := by simpa using hx
      simp only [List.splitBy.loop, hne]
      rw [ih x (e :: segment) done h, List.all_cons, Bool.and_comm]

/-- The fold computes the disjunction over the segments. -/
theorem evaluate_disjunction (ask : Clause → Dispatch) (es : List Expr) :
    (Evaluation.evaluate ask es).value =
      disjunction (fun e => e.clause.join) (Evaluation.siblingValue ask) es := by
  cases es with
  | nil => rw [Evaluation.evaluate_nil, disjunction]
  | cons e rest =>
    rw [Evaluation.evaluate_value_cons, disjunction]
    by_cases he : e.clause.join = .or
    · simp [he]
    · have h := any_loop ask rest e [] [] rfl
      rw [if_neg he, segments, List.splitBy, h]
      simp [he]

/-- Cutting a list and replacing its elements may be done in either order. -/
theorem loop_map {β : Type} (f : α → β) (join : β → Join) (xs : List α) (x : α)
    (segment : List α) (done : List (List α)) :
    List.splitBy.loop (fun _ y => join y != .or) (xs.map f) (f x) (segment.map f)
        (done.map (List.map f)) =
      (List.splitBy.loop (fun _ y => join (f y) != .or) xs x segment done).map (List.map f) := by
  induction xs generalizing x segment done with
  | nil => simp [List.splitBy.loop]
  | cons y ys ih =>
    cases hy : (join (f y) != .or) with
    | true => simpa only [List.map_cons, List.splitBy.loop, hy] using ih y (x :: segment) done
    | false =>
      simp only [List.map_cons, List.splitBy.loop, hy]
      simpa using ih y [] ((x :: segment).reverse :: done)

theorem segments_map {β : Type} (f : α → β) (join : β → Join) (xs : List α) :
    segments join (xs.map f) = (segments (fun x => join (f x)) xs).map (List.map f) := by
  cases xs with
  | nil => rfl
  | cons x xs => exact loop_map f join xs x [] []

theorem disjunction_map {β : Type} (f : α → β) (join : β → Join) (value : β → Bool)
    (xs : List α) :
    disjunction join value (xs.map f) =
      disjunction (fun x => join (f x)) (fun x => value (f x)) xs := by
  cases xs with
  | nil => rfl
  | cons x xs =>
    have h := segments_map f join (x :: xs)
    rw [List.map_cons] at h
    rw [List.map_cons, disjunction, disjunction, h, List.any_map]
    congr 2
    funext segment
    rw [Function.comp_apply, List.all_map]
    rfl

mutual

/-- Evaluation finds the truth of an expression. The recursion is that of the tree: the fold over a
list only needs the values of its siblings. -/
theorem evaluateExpr_truth (ask : Clause → Dispatch) (e : Expr) :
    (Evaluation.evaluateExpr ask e).value = truth (fun c => (ask c).isTrue) e := by
  match e with
  | .node c es =>
    rw [Evaluation.evaluateExpr, truth]
    by_cases hc : c.isGroup
    · rw [if_pos hc, if_pos hc, ← map_siblingValue ask es, disjunction_map,
        ← evaluate_disjunction ask es]
      rfl
    · rw [if_neg hc, if_neg hc]

theorem map_siblingValue (ask : Clause → Dispatch) (es : List Expr) :
    es.map (fun e => (e.clause.join, Evaluation.siblingValue ask e)) =
      siblings (fun c => (ask c).isTrue) es := by
  match es with
  | [] => rw [siblings, List.map_nil]
  | e :: es =>
    rw [siblings, List.map_cons, map_siblingValue ask es, Evaluation.siblingValue,
      evaluateExpr_truth ask e]

end

/-- One step of the fold from left to right, without precedence. -/
def combine (value : Expr → Bool) (result : Bool) (e : Expr) : Bool :=
  if e.clause.join = .or then result || value e else result && value e

/-- The fold from left to right. It starts with the value of the first sibling. -/
def leftFold (value : Expr → Bool) : List Expr → Bool
  | [] => false
  | e :: rest => rest.foldl (combine value) (value e)

/-- Some `or` stands behind siblings that are folded to true. -/
def OrAfterTrue (value : Expr → Bool) (result : Bool) (rest : List Expr) : Prop :=
  ∃ before e after, rest = before ++ e :: after ∧ e.clause.join = .or ∧
    before.foldl (combine value) result = true

theorem not_orAfterTrue_nil (value : Expr → Bool) (result : Bool) :
    ¬ OrAfterTrue value result [] := by
  rintro ⟨before, e, after, h, -⟩
  exact List.append_ne_nil_of_right_ne_nil before (List.cons_ne_nil e after) h.symm

theorem orAfterTrue_cons (value : Expr → Bool) (result : Bool) (e : Expr) (rest : List Expr) :
    OrAfterTrue value result (e :: rest) ↔
      (e.clause.join = .or ∧ result = true) ∨
        OrAfterTrue value (combine value result e) rest := by
  constructor
  · rintro ⟨before, x, after, h, hx, ht⟩
    cases before with
    | nil =>
      obtain ⟨rfl, rfl⟩ := List.cons.inj h
      exact Or.inl ⟨hx, ht⟩
    | cons y before =>
      obtain ⟨rfl, rfl⟩ := List.cons.inj h
      exact Or.inr ⟨before, x, after, rfl, hx, ht⟩
  · rintro (⟨hj, ht⟩ | ⟨before, x, after, rfl, hx, ht⟩)
    · exact ⟨[], e, rest, rfl, hj, ht⟩
    · exact ⟨e :: before, x, after, rfl, hx, ht⟩

/-- Evaluation is the fold from left to right, but for an `or` that ends the list with true. -/
theorem foldFrom_eq_true_iff (ask : Clause → Dispatch) (result : Bool) (rest : List Expr) :
    (Evaluation.foldFrom ask result false rest).value = true ↔
      rest.foldl (combine (Evaluation.siblingValue ask)) result = true ∨
        OrAfterTrue (Evaluation.siblingValue ask) result rest := by
  induction rest generalizing result with
  | nil =>
    rw [Evaluation.foldFrom_nil, List.foldl_nil]
    exact ⟨Or.inl, fun h => h.resolve_right (not_orAfterTrue_nil _ _)⟩
  | cons e rest ih =>
    rw [Evaluation.foldFrom_value_cons, List.foldl_cons, orAfterTrue_cons]
    by_cases he : e.clause.join = .or
    · cases result with
      | true => simp [he]
      | false => simp [he, ih, combine]
    · simp [he, ih, combine]

/-- The fold depends on the values of the siblings only. -/
theorem foldl_combine_congr (value value' : Expr → Bool) (result : Bool) (rest : List Expr)
    (h : ∀ e ∈ rest, value e = value' e) :
    rest.foldl (combine value) result = rest.foldl (combine value') result := by
  induction rest generalizing result with
  | nil => rfl
  | cons e rest ih =>
    rw [List.foldl_cons, List.foldl_cons, combine, combine, h e (by simp)]
    exact ih _ fun x hx => h x (by simp [hx])

theorem orAfterTrue_congr (value value' : Expr → Bool) (result : Bool) (rest : List Expr)
    (h : ∀ e ∈ rest, value e = value' e) :
    OrAfterTrue value result rest ↔ OrAfterTrue value' result rest := by
  constructor <;>
  · rintro ⟨before, e, after, rfl, he, ht⟩
    refine ⟨before, e, after, rfl, he, ?_⟩
    rw [← ht]
    apply foldl_combine_congr
    intro x hx
    simp [h x (by simp [hx])]

/-- A truth value as a condition names it. -/
def literal (join : Join) (b : Bool) : Expr :=
  let keyword := if b then "true" else "false"
  .leaf { keyword, kind := .literal, join, method := Piece.literalMethod, value := keyword }

end Meaning

namespace Registry

variable {ω : Type}

/-- A list is a disjunction of conjunctions of its siblings' values, and so is each group in it. -/
theorem evaluate_eq_disjunction (r : Registry ω) (world : ω) :
    (∀ es, (r.evaluate world es).value = Meaning.disjunction (fun e => e.clause.join)
      (fun e => (r.evaluateExpr world e).value != (e.clause.join == .not)) es) ∧
    (∀ es, (r.evaluate world es).value =
      Meaning.listTruth (fun c => (r.dispatch world c).isTrue) es) ∧
    ∀ e, (r.evaluateExpr world e).value = Meaning.truth (fun c => (r.dispatch world c).isTrue) e := by
  have hd := Meaning.evaluate_disjunction (r.dispatch world)
  refine ⟨hd, ?_, Meaning.evaluateExpr_truth (r.dispatch world)⟩
  intro es
  rw [Registry.evaluate, hd es, Meaning.listTruth, ← Meaning.map_siblingValue,
    Meaning.disjunction_map]

/-- Siblings that are joined by `and` and `or` alone are folded from left to right, but for an `or`
behind a true result: it ends the list with true. A group is folded like any list. -/
theorem evaluate_leftFold (r : Registry ω) (world : ω) (e : Expr) (rest : List Expr)
    (he : e.clause.join = .and)
    (hrest : ∀ x ∈ rest, x.clause.join = .and ∨ x.clause.join = .or) :
    let value := fun x => (r.evaluateExpr world x).value
    ((r.evaluate world (e :: rest)).value = true ↔
      Meaning.leftFold value (e :: rest) = true ∨ Meaning.OrAfterTrue value (value e) rest) ∧
    ((r.evaluate world (e :: rest)).value = Meaning.leftFold value (e :: rest) ↔
      (Meaning.OrAfterTrue value (value e) rest →
        Meaning.leftFold value (e :: rest) = true)) ∧
    ∀ c es, c.isGroup = true →
      (r.evaluateExpr world (.node c es)).value = ((r.evaluate world es).value != c.negated) := by
  intro value
  have hvalue : ∀ x ∈ rest, Evaluation.siblingValue (r.dispatch world) x = value x := by
    intro x hx
    apply Evaluation.siblingValue_of_ne_not
    rcases hrest x hx with h | h <;> simp [h]
  have hfirst : Evaluation.siblingValue (r.dispatch world) e = value e :=
    Evaluation.siblingValue_of_ne_not _ e (by simp [he])
  have hiff : (r.evaluate world (e :: rest)).value = true ↔
      Meaning.leftFold value (e :: rest) = true ∨
        Meaning.OrAfterTrue value (value e) rest := by
    rw [Registry.evaluate, Evaluation.evaluate_value_cons, if_neg (by simp [he]),
      Meaning.foldFrom_eq_true_iff, hfirst, Meaning.foldl_combine_congr _ _ _ _ hvalue,
      Meaning.orAfterTrue_congr _ _ _ _ hvalue, Meaning.leftFold]
  refine ⟨hiff, ?_, ?_⟩
  · rw [Bool.eq_iff_iff, hiff]
    tauto
  · intro c es hc
    rw [Registry.evaluateExpr, Evaluation.evaluateExpr, if_pos hc]
    rfl

theorem evaluate_leftFold_or_and :
    (∀ x ∈ [Meaning.literal .or true, Meaning.literal .and false],
      x.clause.join = .and ∨ x.clause.join = .or) ∧
    (initial.evaluate ()
      [Meaning.literal .and false, Meaning.literal .or true, Meaning.literal .and false]).value =
      Meaning.leftFold (fun x => (initial.evaluateExpr () x).value)
        [Meaning.literal .and false, Meaning.literal .or true, Meaning.literal .and false] := by
  have hjoins : ∀ x ∈ [Meaning.literal .or true, Meaning.literal .and false],
      x.clause.join = .and ∨ x.clause.join = .or := by simp [Meaning.literal, Expr.leaf]
  refine ⟨hjoins, ?_⟩
  apply (evaluate_leftFold initial () (Meaning.literal .and false) _ rfl hjoins).2.1.mpr
  rintro ⟨before, x, after, h, hx, ht⟩
  cases before with
  | nil => exact absurd ht (by decide +kernel)
  | cons y before =>
    obtain ⟨rfl, h⟩ := List.cons.inj h
    obtain ⟨rfl, rfl, rfl⟩ : before = [] ∧ x = Meaning.literal .and false ∧ after = [] := by
      cases before <;> simp_all
    exact absurd hx (by decide)

/-- `true or true and false` is true, although `(true or true) and false` is not. -/
theorem not_evaluate_eq_leftFold :
    ¬ ∀ (e : Expr) (rest : List Expr), e.clause.join = .and →
      (∀ x ∈ rest, x.clause.join = .and ∨ x.clause.join = .or) →
      (initial.evaluate () (e :: rest)).value =
        Meaning.leftFold (fun x => (initial.evaluateExpr () x).value) (e :: rest) := by
  intro h
  have h' := h (Meaning.literal .and true) [Meaning.literal .or true, Meaning.literal .and false]
    rfl (by simp [Meaning.literal, Expr.leaf])
  revert h'
  decide +kernel

end Registry

end Criteria
