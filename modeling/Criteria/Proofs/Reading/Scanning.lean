import Criteria.Reading
import Mathlib.Data.Nat.Init

/-!
# Where lists of tokens may be cut

A clause reads on over the tokens behind its name, but never over a symbol that ends clauses, and
never behind the parenthesis that closes its arguments. So tokens in which all parentheses are
closed are read on their own, whatever symbol of that kind follows.
-/
namespace Criteria

namespace Symbol

/-- No clause goes on with these symbols. -/
def endsClause : Symbol → Bool
  | and | or | not | closeParen => true
  | openParen | compare _ => false

end Symbol

/-- Parentheses that are opened. -/
def opens (tokens : List String) : Nat := tokens.countP fun t => Symbol.ofToken? t == some .openParen

/-- Parentheses that are closed. -/
def closes (tokens : List String) : Nat := tokens.countP fun t => Symbol.ofToken? t == some .closeParen

/-- No parenthesis is closed before it is opened, and as many are closed as are opened. -/
structure Balanced (tokens : List String) : Prop where
  enough : ∀ n, closes (tokens.take n) ≤ opens (tokens.take n)
  equal : opens tokens = closes tokens

/-- Each parenthesis that is opened is closed later on. -/
def Shut (tokens : List String) : Prop := ∀ n, opens (tokens.drop n) ≤ closes (tokens.drop n)

/-- No clause goes on with what begins here. -/
def Behind (tokens : List String) : Prop :=
  ∀ t ∈ tokens.head?, ∃ s : Symbol, Symbol.ofToken? t = some s ∧ s.endsClause = true

@[simp] theorem opens_nil : opens [] = 0 := rfl
@[simp] theorem closes_nil : closes [] = 0 := rfl

@[simp] theorem opens_append (a b : List String) : opens (a ++ b) = opens a + opens b :=
  List.countP_append

@[simp] theorem closes_append (a b : List String) : closes (a ++ b) = closes a + closes b :=
  List.countP_append

theorem opens_cons (t : String) (ts : List String) :
    opens (t :: ts) = (if Symbol.ofToken? t = some .openParen then 1 else 0) + opens ts := by
  rw [opens, List.countP_cons, Nat.add_comm]
  simp [opens]

theorem closes_cons (t : String) (ts : List String) :
    closes (t :: ts) = (if Symbol.ofToken? t = some .closeParen then 1 else 0) + closes ts := by
  rw [closes, List.countP_cons, Nat.add_comm]
  simp [closes]

theorem opens_of_words {ts : List String} (h : ∀ t ∈ ts, Symbol.ofToken? t = none) :
    opens ts = 0 := by
  rw [opens, List.countP_eq_zero]
  intro t ht
  simp [h t ht]

theorem closes_of_words {ts : List String} (h : ∀ t ∈ ts, Symbol.ofToken? t = none) :
    closes ts = 0 := by
  rw [closes, List.countP_eq_zero]
  intro t ht
  simp [h t ht]

theorem Shut.drop {ts : List String} (hs : Shut ts) (n : Nat) : Shut (ts.drop n) := by
  intro m
  rw [List.drop_drop]
  exact hs _

theorem Balanced.shut {ts : List String} (hb : Balanced ts) : Shut ts := by
  intro n
  have ho : opens ts = opens (ts.take n) + opens (ts.drop n) := by
    rw [← opens_append, List.take_append_drop]
  have hc : closes ts = closes (ts.take n) + closes (ts.drop n) := by
    rw [← closes_append, List.take_append_drop]
  have henough := hb.enough n
  have hequal := hb.equal
  omega

theorem balanced_iff (ts : List String) :
    Balanced ts ↔ (∀ n < ts.length + 1, closes (ts.take n) ≤ opens (ts.take n)) ∧
      opens ts = closes ts := by
  constructor
  · exact fun hb => ⟨fun n _ => hb.enough n, hb.equal⟩
  · rintro ⟨henough, hequal⟩
    refine ⟨fun n => ?_, hequal⟩
    by_cases hn : n < ts.length + 1
    · exact henough n hn
    · have htake : ts.take n = ts := List.take_of_length_le (by omega)
      rw [htake]
      exact Nat.le_of_eq hequal.symm

instance (ts : List String) : Decidable (Balanced ts) := decidable_of_iff _ (balanced_iff ts).symm

theorem behind_cons (s : Symbol) (hs : s.endsClause = true) {t : String}
    (ht : Symbol.ofToken? t = some s) (ts : List String) : Behind (t :: ts) := by
  intro x hx
  obtain rfl := Option.some.inj hx
  exact ⟨s, ht, hs⟩

theorem behind_closing (ts : List String) : Behind (")" :: ts) :=
  behind_cons .closeParen rfl (by decide) ts

namespace Piece

variable {v : Vocabulary} {kind : PredicateKind}

theorem argumentList_word {t : String} (ht : Symbol.ofToken? t = none) (ts : List String) :
    argumentList (t :: ts) = (argumentList ts).map fun (params, n) => (t :: params, n + 1) := by
  rw [argumentList, ht]

theorem argumentList_close {t : String} (ht : Symbol.ofToken? t = some .closeParen)
    (ts : List String) : argumentList (t :: ts) = .ok ([], 1) := by
  rw [argumentList, ht]

theorem argumentList_symbol {t : String} {s : Symbol} (ht : Symbol.ofToken? t = some s)
    (hs : s ≠ .closeParen) (ts : List String) : argumentList (t :: ts) = .error (.symbolArgument s) := by
  rw [argumentList, ht]
  cases s <;> first | rfl | contradiction

/-- Words up to a closing parenthesis are arguments. -/
theorem argumentList_eq {params : List String} (hp : ∀ p ∈ params, Symbol.ofToken? p = none)
    {close : String} (hc : Symbol.ofToken? close = some .closeParen) (rest : List String) :
    argumentList (params ++ close :: rest) = .ok (params, params.length + 1) := by
  induction params with
  | nil => exact argumentList_close hc rest
  | cons p params ih =>
    rw [List.cons_append, argumentList_word (hp p (by simp)), ih fun x hx => hp x (by simp [hx])]
    rfl

/-- A list of arguments is read to its closing parenthesis, meets another symbol before one, or is
still open at the end. -/
theorem argumentList_cases (ts : List String) :
    (∃ params close rest, ts = params ++ close :: rest ∧ (∀ p ∈ params, Symbol.ofToken? p = none) ∧
        Symbol.ofToken? close = some .closeParen) ∨
      (∃ s, argumentList ts = .error (.symbolArgument s) ∧
        ∀ rest, argumentList (ts ++ rest) = .error (.symbolArgument s)) ∨
      (argumentList ts = .error .openArguments ∧ ∀ t ∈ ts, Symbol.ofToken? t = none) := by
  induction ts with
  | nil => exact Or.inr (Or.inr ⟨rfl, by simp⟩)
  | cons t ts ih =>
    cases ht : Symbol.ofToken? t with
    | some s =>
      by_cases hs : s = .closeParen
      · exact Or.inl ⟨[], t, ts, rfl, by simp, hs ▸ ht⟩
      · refine Or.inr (Or.inl ⟨s, argumentList_symbol ht hs ts, fun rest => ?_⟩)
        exact argumentList_symbol ht hs _
    | none =>
      rcases ih with ⟨params, close, rest, rfl, hp, hc⟩ | ⟨s, hs, hrest⟩ | ⟨ho, hw⟩
      · exact Or.inl ⟨t :: params, close, rest, rfl, by simpa [ht] using hp, hc⟩
      · refine Or.inr (Or.inl ⟨s, by rw [argumentList_word ht, hs]; rfl, fun rest => ?_⟩)
        rw [List.cons_append, argumentList_word ht, hrest]
        rfl
      · exact Or.inr (Or.inr ⟨by rw [argumentList_word ht, ho]; rfl, by simpa [ht] using hw⟩)

theorem arguments_open {t : String} (ht : Symbol.ofToken? t = some .openParen) (ts : List String) :
    arguments (t :: ts) = (argumentList ts).map fun (params, n) => (params, n + 1) := by
  rw [arguments, if_pos ht]

theorem arguments_other {t : String} (ht : Symbol.ofToken? t ≠ some .openParen) (ts : List String) :
    arguments (t :: ts) = .error .noArguments := by
  rw [arguments, if_neg ht]

/-- What is behind a clause is no symbol that a clause goes on with. -/
theorem ne_of_behind {t : String} {ts : List String} (h : Behind (t :: ts)) {s : Symbol}
    (hs : s.endsClause = false) : Symbol.ofToken? t ≠ some s := by
  intro ht
  obtain ⟨s', hs', hends⟩ := h t rfl
  obtain rfl := Option.some.inj (hs'.symm.trans ht)
  simp [hs] at hends

theorem comparator?_eq_some {t : String} {c : Comparator} :
    (Symbol.ofToken? t).bind Symbol.comparator? = some c ↔
      Symbol.ofToken? t = some (.compare c) := by
  cases ht : Symbol.ofToken? t with
  | none => simp
  | some s => cases s <;> simp [Symbol.comparator?]

theorem comparator?_of_behind {t : String} {ts : List String} (h : Behind (t :: ts)) :
    (Symbol.ofToken? t).bind Symbol.comparator? = none :=
  Option.eq_none_iff_forall_ne_some.mpr fun _ hc => ne_of_behind h rfl (comparator?_eq_some.mp hc)

/-- Whether arguments are read is decided by the first token. -/
theorem readsArguments_append {ts rest : List String} (hr : Behind rest) :
    readsArguments kind (ts ++ rest) = readsArguments kind ts := by
  cases ts with
  | cons t ts => rfl
  | nil =>
    cases rest with
    | nil => rfl
    | cons t rest =>
      have ho : Symbol.ofToken? t ≠ some .openParen := ne_of_behind hr rfl
      simp [readsArguments, ho]

theorem readsComparison_append {ts rest : List String} (hr : Behind rest) :
    readsComparison kind (ts ++ rest) = readsComparison kind ts := by
  cases ts with
  | cons t ts => rfl
  | nil =>
    cases rest with
    | nil => rfl
    | cons t rest => simp [readsComparison, comparator?_of_behind hr]

theorem arguments_append {ts rest : List String} (hs : Shut ts) (hr : Behind rest) :
    arguments (ts ++ rest) = arguments ts := by
  cases ts with
  | nil =>
    cases rest with
    | nil => rfl
    | cons t rest => exact arguments_other (ne_of_behind hr rfl) rest
  | cons t ts =>
    by_cases ht : Symbol.ofToken? t = some .openParen
    · rw [List.cons_append, arguments_open ht, arguments_open ht]
      rcases argumentList_cases ts with ⟨params, close, ts', rfl, hp, hc⟩ | ⟨s, he, hrest⟩ | ⟨-, hw⟩
      · rw [List.append_assoc, List.cons_append, argumentList_eq hp hc, argumentList_eq hp hc]
      · rw [he, hrest]
      · have hcount := hs 0
        rw [List.drop_zero, opens_cons, closes_cons, opens_of_words hw, closes_of_words hw,
          if_pos ht, if_neg (by simp [ht])] at hcount
        contradiction
    · rw [List.cons_append, arguments_other ht, arguments_other ht]

/-- The arguments of a clause do not depend on what follows the tokens in which they are. -/
theorem argumentsFor_append {ts rest : List String} (hs : Shut ts) (hr : Behind rest) :
    argumentsFor kind (ts ++ rest) = argumentsFor kind ts := by
  rw [argumentsFor, argumentsFor, readsArguments_append hr, arguments_append hs hr]

/-- Arguments that are read are words in parentheses. -/
theorem argumentsFor_eq_ok {ts params : List String} {n : Nat}
    (h : argumentsFor kind ts = .ok (params, n)) :
    (readsArguments kind ts = false ∧ params = [] ∧ n = 0) ∨
      (readsArguments kind ts = true ∧ ∃ opening closing rest,
        ts = opening :: (params ++ closing :: rest) ∧ Symbol.ofToken? opening = some .openParen ∧
        (∀ p ∈ params, Symbol.ofToken? p = none) ∧
        Symbol.ofToken? closing = some .closeParen ∧ n = params.length + 2) := by
  rw [argumentsFor] at h
  cases hr : readsArguments kind ts with
  | false =>
    rw [hr, if_neg (by simp), Except.ok.injEq, Prod.mk.injEq] at h
    exact Or.inl ⟨rfl, h.1.symm, h.2.symm⟩
  | true =>
    rw [hr, if_pos rfl] at h
    refine Or.inr ⟨rfl, ?_⟩
    cases ts with
    | nil => simp [arguments] at h
    | cons t ts =>
      by_cases ht : Symbol.ofToken? t = some .openParen
      · rw [arguments_open ht] at h
        rcases argumentList_cases ts with ⟨params', close, rest, rfl, hp, hc⟩ | ⟨s, he, -⟩ | ⟨ho, -⟩
        · rw [argumentList_eq hp hc] at h
          obtain ⟨rfl, rfl⟩ : params' = params ∧ params'.length + 1 + 1 = n := by
            simpa [Except.map] using h
          exact ⟨t, close, rest, rfl, ht, hp, hc, rfl⟩
        · simp [he, Except.map] at h
        · simp [ho, Except.map] at h
      · simp [arguments_other ht] at h

theorem comparison_other {t : String} (ht : ∀ c, Symbol.ofToken? t ≠ some (.compare c))
    (ts : List String) : comparison v (t :: ts) = .error .noComparator := by
  have hc : (Symbol.ofToken? t).bind Symbol.comparator? = none :=
    Option.eq_none_iff_forall_ne_some.mpr fun c hc => ht c (comparator?_eq_some.mp hc)
  unfold comparison
  simp [hc]

theorem comparison_alone {t : String} {c : Comparator} (ht : Symbol.ofToken? t = some (.compare c)) :
    comparison v [t] = .error .noValue := by
  unfold comparison
  simp [comparator?_eq_some.mpr ht]

theorem comparison_value {t : String} {c : Comparator} (ht : Symbol.ofToken? t = some (.compare c))
    (value : String) (rest : List String) :
    comparison v (t :: value :: rest) =
      if (Symbol.ofToken? value).isSome then .error (.symbolValue value)
      else if v.isKnown value then .error (.nameValue value)
      else .ok (c, value) := by
  unfold comparison
  simp [comparator?_eq_some.mpr ht]

/-- A comparison is a comparator and a word that the vocabulary does not know. -/
theorem comparison_eq_ok {ts : List String} {c : Comparator} {value : String} :
    comparison v ts = .ok (c, value) ↔
      ∃ t rest, ts = t :: value :: rest ∧ Symbol.ofToken? t = some (.compare c) ∧
        Symbol.ofToken? value = none ∧ v.isKnown value = false := by
  constructor
  · intro h
    cases ts with
    | nil =>
      have hnil : comparison v [] = .error .noComparator := rfl
      simp [hnil] at h
    | cons t ts =>
      by_cases hc : ∃ c, Symbol.ofToken? t = some (.compare c)
      · obtain ⟨c', hc⟩ := hc
        cases ts with
        | nil => simp [comparison_alone hc] at h
        | cons x rest =>
          rw [comparison_value hc] at h
          split at h
          · contradiction
          · next hx =>
            split at h
            · contradiction
            · next hk =>
              obtain ⟨rfl, rfl⟩ : c' = c ∧ x = value := by simpa using h
              exact ⟨t, rest, rfl, hc, by simpa using hx, by simpa using hk⟩
      · rw [comparison_other (not_exists.mp hc)] at h
        contradiction
  · rintro ⟨t, rest, rfl, hc, hx, hk⟩
    rw [comparison_value hc, hx, hk]
    rfl

/-- What follows the tokens in which a comparison is read does not change it, but may be another
reason for its flaw. -/
theorem comparison_append {ts rest : List String} (hr : Behind rest) :
    comparison v (ts ++ rest) = comparison v ts ∨
      ∃ flaw flaw', comparison v (ts ++ rest) = .error flaw ∧ comparison v ts = .error flaw' := by
  cases ts with
  | nil =>
    cases rest with
    | nil => exact Or.inl rfl
    | cons t rest => exact Or.inl (comparison_other (fun _ => ne_of_behind hr rfl) rest)
  | cons t ts =>
    by_cases hc : ∃ c, Symbol.ofToken? t = some (.compare c)
    · obtain ⟨c, hc⟩ := hc
      cases ts with
      | nil =>
        cases rest with
        | nil => exact Or.inl rfl
        | cons x rest =>
          obtain ⟨s, hs, -⟩ := hr x rfl
          refine Or.inr ⟨.symbolValue x, .noValue, ?_, comparison_alone hc⟩
          rw [List.singleton_append, comparison_value hc, hs]
          rfl
      | cons x ts =>
        rw [List.cons_append, List.cons_append, comparison_value hc, comparison_value hc]
        exact Or.inl rfl
    · rw [List.cons_append, comparison_other (not_exists.mp hc), comparison_other (not_exists.mp hc)]
      exact Or.inl rfl

/-- A comparison that is read is a comparator and a word that the vocabulary does not know. -/
theorem comparisonFor_eq_ok {ts : List String} {operator : Operator} {value : String} {n : Nat}
    (h : comparisonFor v kind ts = .ok (operator, value, n)) :
    (readsComparison kind ts = false ∧ operator = none ∧ value = "" ∧ n = 0) ∨
      (readsComparison kind ts = true ∧ ∃ c t rest, operator = some c ∧ ts = t :: value :: rest ∧
        Symbol.ofToken? t = some (.compare c) ∧ Symbol.ofToken? value = none ∧
        v.isKnown value = false ∧ n = 2) := by
  rw [comparisonFor] at h
  cases hr : readsComparison kind ts with
  | false =>
    rw [hr, if_neg (by simp), Except.ok.injEq, Prod.mk.injEq, Prod.mk.injEq] at h
    exact Or.inl ⟨rfl, h.1.symm, h.2.1.symm, h.2.2.symm⟩
  | true =>
    rw [hr, if_pos rfl] at h
    refine Or.inr ⟨rfl, ?_⟩
    cases hc : comparison v ts with
    | error flaw => simp [hc, Except.map] at h
    | ok found =>
      obtain ⟨c, x⟩ := found
      obtain ⟨rfl, rfl, rfl⟩ : some c = operator ∧ x = value ∧ 2 = n := by
        simpa [hc, Except.map] using h
      obtain ⟨t, rest, hts, ht, hx, hk⟩ := comparison_eq_ok.mp hc
      exact ⟨c, t, rest, rfl, hts, ht, hx, hk, rfl⟩

theorem comparisonFor_append {ts rest : List String} (hr : Behind rest) :
    comparisonFor v kind (ts ++ rest) = comparisonFor v kind ts ∨
      ∃ flaw flaw', comparisonFor v kind (ts ++ rest) = .error flaw ∧
        comparisonFor v kind ts = .error flaw' := by
  rw [comparisonFor, comparisonFor, readsComparison_append hr]
  split
  · rcases (comparison_append hr : comparison v (ts ++ rest) = comparison v ts ∨ _) with
      he | ⟨flaw, flaw', he, he'⟩
    · exact Or.inl (by rw [he])
    · exact Or.inr ⟨flaw, flaw', by rw [he]; rfl, by rw [he']; rfl⟩
  · exact Or.inl rfl

/-- Pieces that differ at most in the flaw of a clause are read alike. -/
def Alike (p p' : Piece) : Prop := ∀ r : Reading, r.step p = r.step p'

theorem Alike.malformed (token : String) (kind : ClauseKind) (flaw flaw' : Flaw) :
    Alike (.malformed token kind flaw) (.malformed token kind flaw') := fun _ => rfl

/-- A number of tokens from the beginning of a list in which all parentheses are closed. -/
def Whole (ts : List String) (n : Nat) : Prop :=
  n ≤ ts.length ∧ opens (ts.take n) = closes (ts.take n)

theorem whole_zero (ts : List String) : Whole ts 0 := ⟨Nat.zero_le _, rfl⟩

theorem Whole.add {ts : List String} {n m : Nat} (hn : Whole ts n) (hm : Whole (ts.drop n) m) :
    Whole ts (n + m) := by
  obtain ⟨hn, hnp⟩ := hn
  obtain ⟨hm, hmp⟩ := hm
  rw [List.length_drop] at hm
  refine ⟨by omega, ?_⟩
  rw [List.take_add, opens_append, closes_append, hnp, hmp]

/-- The tokens that arguments take, with the parentheses around them. -/
theorem take_arguments (opening : String) (params : List String) (closing : String)
    (rest : List String) :
    (opening :: (params ++ closing :: rest)).take (params.length + 2) =
      opening :: (params ++ [closing]) := by
  rw [List.take_succ_cons, List.take_append, List.take_of_length_le (by omega),
    Nat.add_sub_cancel_left]
  rfl

theorem argumentsFor_whole {ts params : List String} {n : Nat}
    (h : argumentsFor kind ts = .ok (params, n)) : Whole ts n := by
  rcases argumentsFor_eq_ok h with ⟨-, -, rfl⟩ | ⟨-, o, c, rest, rfl, ho, hp, hc, rfl⟩
  · exact whole_zero ts
  · refine ⟨by simp, ?_⟩
    rw [take_arguments]
    simp [opens_cons, closes_cons, opens_of_words hp, closes_of_words hp, ho, hc]

theorem comparisonFor_whole {ts : List String} {operator : Operator} {value : String} {n : Nat}
    (h : comparisonFor v kind ts = .ok (operator, value, n)) : Whole ts n := by
  rcases comparisonFor_eq_ok h with ⟨-, -, -, rfl⟩ | ⟨-, c, t, rest, -, rfl, ht, hx, -, rfl⟩
  · exact whole_zero ts
  · refine ⟨by simp, ?_⟩
    simp [opens_cons, closes_cons, ht, hx]

/-- The tokens that a clause takes from behind its name, also if it is malformed. -/
theorem call_whole (method keyword : String) (ts : List String) :
    Whole ts (call v kind method keyword ts).2 := by
  rw [call]
  cases ha : argumentsFor kind ts with
  | error flaw => exact whole_zero ts
  | ok found =>
    obtain ⟨params, n⟩ := found
    have hn := argumentsFor_whole ha
    cases hc : comparisonFor v kind (ts.drop n) with
    | error flaw => simpa [hc] using hn
    | ok found =>
      obtain ⟨operator, value, m⟩ := found
      simpa [hc] using hn.add (comparisonFor_whole hc)

/-- The clause that a name begins does not depend on what follows the tokens in which it is. -/
theorem call_append {method keyword : String} {ts rest : List String} (hs : Shut ts)
    (hr : Behind rest) :
    Alike (call v kind method keyword (ts ++ rest)).1 (call v kind method keyword ts).1 ∧
      (call v kind method keyword (ts ++ rest)).2 = (call v kind method keyword ts).2 := by
  rw [call, call, argumentsFor_append hs hr]
  cases ha : argumentsFor kind ts with
  | error flaw => exact ⟨fun _ => rfl, rfl⟩
  | ok found =>
    obtain ⟨params, n⟩ := found
    simp only
    rw [List.drop_append_of_le_length (argumentsFor_whole ha).1]
    rcases (comparisonFor_append hr : comparisonFor v kind (ts.drop n ++ rest) = _ ∨ _) with
      he | ⟨flaw, flaw', he, he'⟩
    · rw [he]
      exact ⟨fun _ => rfl, rfl⟩
    · rw [he, he']
      exact ⟨fun _ => rfl, rfl⟩

theorem first_symbol {t : String} {s : Symbol} (ht : Symbol.ofToken? t = some s) (ts : List String) :
    (first v t ts).2 = 0 ∧ ∀ ts', first v t ts' = first v t ts := by
  cases s <;> simp [first, ht]

theorem first_openParen (ts : List String) : first v "(" ts = (.opening, 0) := by
  rw [first, show Symbol.ofToken? "(" = some .openParen by decide]

theorem first_closeParen (ts : List String) : first v ")" ts = (.closing, 0) := by
  rw [first, show Symbol.ofToken? ")" = some .closeParen by decide]

theorem first_negation (ts : List String) : first v "not" ts = (.negation, 0) := by
  rw [first, show Symbol.ofToken? "not" = some .not by decide]

theorem first_comparator (c : Comparator) (ts : List String) :
    first v c.text ts = (.stray c, 0) := by
  cases c <;> rfl

/-- The joins that are read, which are all but the one that stands for a negation. -/
theorem first_join {j : Join} (hj : j ≠ .not) (ts : List String) :
    first v j.text ts = (.join j, 0) := by
  cases j with
  | and => rw [first, show Symbol.ofToken? Join.and.text = some .and by decide]
  | or => rw [first, show Symbol.ofToken? Join.or.text = some .or by decide]
  | not => contradiction

theorem first_word {t : String} (ht : Symbol.ofToken? t = none) (ts : List String) :
    first v t ts = word v t ts := by
  rw [first, ht]

theorem first_literal {token : String} (hsymbol : Symbol.ofToken? token = none)
    (htruth : (Value.bool? token).isSome = true) (ts : List String) :
    first v token ts = (.clause (literal token), 0) := by
  rw [first_word hsymbol, word, if_pos htruth]

/-- A name that is known, and no truth value, begins a call. -/
theorem first_call {name method : String} {kind : PredicateKind} (hname : Symbol.ofToken? name = none)
    (hbool : Value.bool? name = none) (hknown : v.classify name = some (kind, method))
    (ts : List String) : first v name ts = call v kind method name ts := by
  rw [first_word hname, word, hbool, if_neg (by simp), hknown]

/-- What the first token begins does not depend on what follows the tokens in which it is. -/
theorem first_append {t : String} {ts rest : List String} (hs : Shut ts) (hr : Behind rest) :
    Alike (first v t (ts ++ rest)).1 (first v t ts).1 ∧
      (first v t (ts ++ rest)).2 = (first v t ts).2 := by
  cases ht : Symbol.ofToken? t with
  | some s =>
    rw [(first_symbol ht ts).2]
    exact ⟨fun _ => rfl, rfl⟩
  | none =>
    rw [first_word ht, first_word ht, word, word]
    split
    · exact ⟨fun _ => rfl, rfl⟩
    · split
      · exact call_append hs hr
      · exact ⟨fun _ => rfl, rfl⟩

theorem first_whole (t : String) (ts : List String) : Whole ts (first v t ts).2 := by
  cases ht : Symbol.ofToken? t with
  | some s =>
    rw [(first_symbol ht ts).1]
    exact whole_zero ts
  | none =>
    rw [first_word ht, word]
    split
    · exact whole_zero ts
    · split
      · exact call_whole _ _ ts
      · exact whole_zero ts

end Piece

end Criteria
