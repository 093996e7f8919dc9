import Criteria.Number.Limited
import Criteria.Proofs.Reading.Building
import Criteria.Proofs.Reading.Grouping
import Criteria.Registry

/-!
# Lists of tokens that are put together

Tokens in which all parentheses are closed leave nothing behind but their expressions, unless a join
or a negation waits at their end. So what begins with a join or a negation is read behind them as it
is read on its own, and a pair of parentheses around them makes a group of their expressions.
-/
namespace Criteria

/-- The tokens that say how clauses are put together. -/
def Connective (token : String) : Prop :=
  Symbol.ofToken? token ∈ [some .and, some .or, some .not]

instance (token : String) : Decidable (Connective token) := inferInstanceAs (Decidable (_ ∈ _))

theorem Connective.ends {t : String} (h : Connective t) :
    ∃ s, Symbol.ofToken? t = some s ∧ s.endsClause = true := by
  simp only [Connective, List.mem_cons, List.not_mem_nil, or_false] at h
  rcases h with hs | hs | hs <;> exact ⟨_, hs, rfl⟩

namespace Piece

/-- Whether something waits behind the piece for the next clause or group. -/
def waits : Piece → Bool
  | join _ | negation => true
  | _ => false

theorem connective_of_waits {v : Vocabulary} {t : String} {ts : List String}
    (h : (first v t ts).1.waits = true) : Connective t := by
  rw [Connective, ← symbol?_first (v := v) t ts]
  cases hp : (first v t ts).1 with
  | join j =>
    cases j with
    | not => exact absurd hp (first_ne_join_not t ts)
    | _ => simp [symbol?]
  | negation => simp [symbol?]
  | _ => simp [hp, waits] at h

end Piece

namespace Reading

variable {v : Vocabulary}

theorem step_clear (r : Reading) {p : Piece} (hp : p.waits = false) :
    (r.step p).clear = r.step p := by
  cases p <;> first | rfl | contradiction

/-- Nothing waits behind tokens of which the last is no connective. -/
theorem readAll_clear {ts : List String} (hts : ∀ t ∈ ts.getLast?, ¬ Connective t) {r : Reading}
    (hr : ts = [] → r.clear = r) : (r.readAll v ts).clear = r.readAll v ts := by
  induction hn : ts.length using Nat.strong_induction_on generalizing ts r with
  | _ n ih =>
    cases ts with
    | nil => simpa using hr rfl
    | cons t ts =>
      rw [readAll_cons]
      refine ih _ ?_ (fun x hx => hts x ?_) (fun hnil => r.step_clear ?_) rfl
      · simp only [List.length_cons, List.length_drop] at hn ⊢
        omega
      · rw [List.getLast?_drop] at hx
        split at hx
        · contradiction
        · simp [List.getLast?_cons, Option.mem_def.mp hx]
      -- The last piece passes over all tokens that are left, so if it waits it is the last token.
      · refine Bool.eq_false_iff.mpr fun hwaits => ?_
        have ht : Connective t := Piece.connective_of_waits hwaits
        obtain ⟨s, hs, -⟩ := ht.ends
        rw [(Piece.first_symbol hs ts).1, List.drop_zero] at hnil
        exact hts t (by simp [hnil]) ht

/-- Balanced tokens leave their expressions behind, and nothing else. -/
theorem readAll_start {ts : List String} (hb : Balanced ts)
    (hts : ∀ t ∈ ts.getLast?, ¬ Connective t) :
    start.readAll v ts = { start with root := parseTokens v ts } := by
  rw [← readAll_clear hts fun _ => rfl, clear, frames_balanced hb]
  rfl

/-- A reading with expressions in front of those at its root. -/
def onto (es : List Expr) (r : Reading) : Reading := { r with root := es ++ r.root }

theorem push_onto (es : List Expr) (r : Reading) (e : Expr) :
    (r.onto es).push e = (r.push e).onto es := by
  rcases r with ⟨join?, negated, _ | ⟨f, fs⟩, root⟩ <;> simp [onto, push]

theorem closeGroup_onto (es : List Expr) (r : Reading) :
    (r.onto es).closeGroup = r.closeGroup.onto es := by
  rcases r with ⟨join?, negated, _ | ⟨f, fs⟩, root⟩
  · rfl
  · by_cases hempty : f.children = []
    · rw [onto, closeGroup_of_nil hempty, closeGroup_of_nil hempty]
      rfl
    · rw [onto, closeGroup_of_ne_nil hempty, closeGroup_of_ne_nil hempty]
      exact push_onto es ⟨join?, negated, fs, root⟩ _

theorem step_onto (es : List Expr) (r : Reading) (p : Piece) :
    (r.onto es).step p = (r.step p).onto es := by
  cases p with
  | closing => exact congrArg clear (closeGroup_onto es r)
  | clause c => exact congrArg clear (push_onto es r _)
  | _ => rfl

/-- What is at the root already does not change what is read. -/
theorem readAll_onto (es : List Expr) (r : Reading) (ts : List String) :
    (r.onto es).readAll v ts = (r.readAll v ts).onto es := by
  rw [readAll, readAll]
  induction Piece.scan v ts generalizing r with
  | nil => rfl
  | cons p pieces ih => rw [List.foldl_cons, List.foldl_cons, step_onto, ih]

end Reading

/-- Balanced tokens are read on their own, and so is what follows them with a connective. -/
theorem parseTokens_append {v : Vocabulary} {ts ts' : List String} (hb : Balanced ts)
    (hend : ∀ t ∈ ts.getLast?, ¬ Connective t) (hbegin : ∀ t ∈ ts'.head?, Connective t) :
    parseTokens v (ts ++ ts') = parseTokens v ts ++ parseTokens v ts' := by
  have honto : { Reading.start with root := parseTokens v ts } =
      Reading.start.onto (parseTokens v ts) := by simp [Reading.onto, Reading.start]
  rw [Reading.parseTokens_eq, Reading.readAll_append hb.shut fun t ht => (hbegin t ht).ends,
    Reading.readAll_start hb hend, honto, Reading.readAll_onto]
  rfl

/-- Parentheses around balanced tokens make a group, unless there is nothing to put into it. -/
theorem parseTokens_parenthesized {v : Vocabulary} {ts : List String} (hb : Balanced ts) :
    parseTokens v ("(" :: (ts ++ [")"])) =
      if (parseTokens v ts).isEmpty then [] else [.group .and false (parseTokens v ts)] := by
  rw [Reading.parseTokens_eq, Reading.readAll_group hb]
  split
  · rw [Reading.readAll_nil]
    rfl
  · rw [Reading.readAll_nil]
    rfl

namespace Registry

variable {ω : Type}

/-- Reading is compositional. What follows balanced tokens with a connective adds its own
expressions to theirs, however it goes on, and balanced tokens in parentheses are one group of their
expressions or nothing. -/
theorem parse_compositional (r : Registry ω) :
    (∀ ts ts' : List String, Balanced ts → (∀ t ∈ ts.getLast?, ¬ Connective t) →
      (∀ t ∈ ts'.head?, Connective t) →
      parseTokens r.vocabulary (ts ++ ts') =
        parseTokens r.vocabulary ts ++ parseTokens r.vocabulary ts') ∧
    ∀ ts : List String, Balanced ts →
      (parseTokens r.vocabulary ts = [] →
        parseTokens r.vocabulary ("(" :: (ts ++ [")"])) = []) ∧
      (parseTokens r.vocabulary ts ≠ [] →
        parseTokens r.vocabulary ("(" :: (ts ++ [")"])) =
          [.group .and false (parseTokens r.vocabulary ts)]) := by
  refine ⟨fun ts ts' hb hend hbegin => parseTokens_append hb hend hbegin, fun ts hb => ⟨?_, ?_⟩⟩
  · intro hempty
    rw [parseTokens_parenthesized hb, if_pos (by simpa using hempty)]
  · intro hne
    rw [parseTokens_parenthesized hb, if_neg (by simpa using hne)]

theorem parse_compositional_malformed :
    let r : Registry Unit := [⟨"Level", .quantity, .host, fun _ _ => .answer true⟩,
      ⟨"Has", .query, .host, fun _ _ => .answer true⟩].foldl register initial
    let ts := ["Has", "(", "a", ")", "or", "(", "Level", "(", "not", "Has", ")", "==", ")", "Level"]
    let ts' := ["||", "not", "(", "true", ")", ")", "and", "Level", "<", "5", "(", "Has"]
    Balanced ts ∧ (∀ t ∈ ts.getLast?, ¬ Connective t) ∧ (∀ t ∈ ts'.head?, Connective t) ∧
      parseTokens r.vocabulary ts ≠ [] ∧
      parseTokens r.vocabulary (ts ++ ts') =
        parseTokens r.vocabulary ts ++ parseTokens r.vocabulary ts' ∧
      parseTokens r.vocabulary ("(" :: (ts ++ [")"])) =
        [.group .and false (parseTokens r.vocabulary ts)] := by
  intro r ts ts'
  have hb : Balanced ts := by decide +kernel
  have hend : ∀ t ∈ ts.getLast?, ¬ Connective t := by decide
  have hbegin : ∀ t ∈ ts'.head?, Connective t := by decide
  have hne : parseTokens r.vocabulary ts ≠ [] := by decide +kernel
  obtain ⟨happend, hgroup⟩ := parse_compositional r
  exact ⟨hb, hend, hbegin, hne, happend ts ts' hb hend hbegin, (hgroup ts hb).2 hne⟩

end Registry

end Criteria
