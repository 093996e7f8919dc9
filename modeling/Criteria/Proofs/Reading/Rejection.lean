import Criteria.Proofs.Reading.Concatenation

/-!
# Rejected arguments

A clause whose arguments hold a symbol is dropped, but only its name is passed over. So what was to
be its arguments is read as a group: it is dropped with the clause if no clause begins in it, and
stays as a clause of its own otherwise.
-/
namespace Criteria

/-- Tokens without parentheses. -/
def Flat (ts : List String) : Prop :=
  ∀ t ∈ ts, Symbol.ofToken? t ≠ some .openParen ∧ Symbol.ofToken? t ≠ some .closeParen

instance (ts : List String) : Decidable (Flat ts) := inferInstanceAs (Decidable (∀ t ∈ ts, _))

namespace Flat

variable {ts : List String}

theorem opens (h : Flat ts) : opens ts = 0 := by
  rw [Criteria.opens, List.countP_eq_zero]
  intro t ht
  simpa using (h t ht).1

theorem closes (h : Flat ts) : closes ts = 0 := by
  rw [Criteria.closes, List.countP_eq_zero]
  intro t ht
  simpa using (h t ht).2

theorem take (h : Flat ts) (n : Nat) : Flat (ts.take n) :=
  fun t ht => h t (List.mem_of_mem_take ht)

theorem balanced (h : Flat ts) : Balanced ts := by
  refine ⟨fun n => ?_, by rw [h.opens, h.closes]⟩
  rw [(h.take n).closes]
  exact Nat.zero_le _

end Flat

namespace Piece

variable {v : Vocabulary} {kind : PredicateKind}

/-- Tokens without a closing parenthesis in front of the first symbol among them are no
arguments. -/
theorem argumentList_rejected {ts : List String} (hflat : Flat ts)
    (hsymbol : ∃ t ∈ ts, (Symbol.ofToken? t).isSome) (rest : List String) :
    ∃ s, argumentList (ts ++ rest) = .error (.symbolArgument s) := by
  rcases argumentList_cases ts with
    ⟨params, close, after, rfl, -, hclose⟩ | ⟨s, -, hrest⟩ | ⟨-, hwords⟩
  · exact absurd hclose (hflat close (by simp)).2
  · exact ⟨s, hrest rest⟩
  · obtain ⟨t, ht, hsome⟩ := hsymbol
    simp [hwords t ht] at hsome

/-- A name that needs arguments does not get them, and is passed over alone. -/
theorem first_rejected {m method : String} (hm : Symbol.ofToken? m = none)
    (hliteral : Value.bool? m = none) (hname : v.classify m = some (kind, method))
    (hneeds : (ClauseKind.call kind).needsArguments = true) {args : List String}
    (hflat : Flat args) (hsymbol : ∃ t ∈ args, (Symbol.ofToken? t).isSome) (rest : List String) :
    ∃ s, first v m ("(" :: (args ++ rest)) =
      (.malformed m (.call kind) (.symbolArgument s), 0) := by
  obtain ⟨s, hs⟩ := argumentList_rejected hflat hsymbol rest
  have hreads : readsArguments kind ("(" :: (args ++ rest)) = true := by
    rw [readsArguments, hneeds, Bool.true_or]
  refine ⟨s, ?_⟩
  rw [first_call hm hliteral hname]
  simp only [call, argumentsFor, hreads, if_true]
  rw [arguments_open (by decide), hs]
  rfl

theorem first_flat {t : String} (ht : Symbol.ofToken? t ≠ some .openParen ∧
    Symbol.ofToken? t ≠ some .closeParen) (ts : List String) :
    (first v t ts).1 ≠ .opening ∧ (first v t ts).1 ≠ .closing := by
  rw [← symbol?_first (v := v) t ts] at ht
  exact ⟨fun h => ht.1 (by rw [h, symbol?]), fun h => ht.2 (by rw [h, symbol?])⟩

end Piece

/-- A clause begins in the tokens. -/
def BeginsClause (v : Vocabulary) (ts : List String) : Prop :=
  ∃ p ∈ Piece.scan v ts, ∃ c, p.1 = .clause c

namespace Reading

variable {v : Vocabulary}

theorem step_frames_nil {r : Reading} (hr : r.frames = []) {p : Piece} (hopening : p ≠ .opening)
    (hclosing : p ≠ .closing) : (r.step p).frames = [] := by
  rcases r with ⟨join?, negated, frames, root⟩
  obtain rfl : frames = [] := hr
  cases p <;> first | rfl | contradiction

/-- Outside of groups each clause is left at the root, and nothing else is. -/
theorem root_foldl_eq_nil {pieces : List (Piece × Nat)}
    (hpieces : ∀ p ∈ pieces, p.1 ≠ .opening ∧ p.1 ≠ .closing) {r : Reading} (hr : r.frames = []) :
    (pieces.foldl (fun r p => r.step p.1) r).root = [] ↔
      r.root = [] ∧ ¬ ∃ p ∈ pieces, ∃ c, p.1 = .clause c := by
  induction pieces generalizing r with
  | nil => simp
  | cons p pieces ih =>
    obtain ⟨⟨hopening, hclosing⟩, hrest⟩ := List.forall_mem_cons.mp hpieces
    rw [List.foldl_cons, ih hrest (step_frames_nil hr hopening hclosing)]
    obtain ⟨piece, n⟩ := p
    rcases r with ⟨join?, negated, frames, root⟩
    obtain rfl : frames = [] := hr
    cases piece with
    | opening => contradiction
    | closing => contradiction
    | clause c => simp [step, addClause, push]
    | _ => simp [step]

end Reading

/-- Without parentheses there is nothing to read where no clause begins. -/
theorem parseTokens_flat_eq_nil {v : Vocabulary} {ts : List String} (h : Flat ts) :
    parseTokens v ts = [] ↔ ¬ BeginsClause v ts := by
  have hpieces : ∀ p ∈ Piece.scan v ts, p.1 ≠ .opening ∧ p.1 ≠ .closing :=
    Piece.forall_mem_scan (A := fun p => p ≠ .opening ∧ p ≠ .closing)
      (fun t ts hts => Piece.first_flat (hts t List.mem_cons_self) ts) h
  exact (Reading.root_foldl_eq_nil hpieces rfl).trans (and_iff_right rfl)

/-- No clause begins in words that are neither truth values nor names. -/
theorem not_beginsClause {v : Vocabulary} {ts : List String}
    (h : ∀ t ∈ ts, Symbol.ofToken? t = none → Value.bool? t = none ∧ v.classify t = none) :
    ¬ BeginsClause v ts := by
  have hscan : ∀ p ∈ Piece.scan v ts, ∀ c, p.1 ≠ .clause c := by
    refine Piece.forall_mem_scan (A := fun p => ∀ c, p ≠ .clause c) (fun t ts hts c hc => ?_) h
    obtain ⟨hbool, hname⟩ := hts t List.mem_cons_self (Piece.ofToken?_of_clause hc)
    rcases Piece.first_eq_clause hc with ⟨htruth, -⟩ | ⟨kind, method, -, -, -, -, -, -, hfound, -⟩
    · simp [hbool] at htruth
    · simp [hname] at hfound
  rintro ⟨p, hp, c, hc⟩
  exact hscan p hp c hc

namespace Registry

variable {ω : Type}

/-- A method or a query with a symbol among its arguments is dropped, and what was to be its
arguments is read as a group. So the clause is dropped as a whole just if no clause begins in them,
and always if all words among them are unknown. -/
theorem parse_rejected (r : Registry ω) (m method : String) (kind : PredicateKind)
    (hm : Symbol.ofToken? m = none) (hliteral : Value.bool? m = none)
    (hname : r.classify m = some (kind, method)) (hkind : kind = .method ∨ kind = .query)
    (args : List String) (hflat : Flat args)
    (hsymbol : ∃ t ∈ args, (Symbol.ofToken? t).isSome) :
    parseTokens r.vocabulary (m :: "(" :: (args ++ [")"])) =
        (if (parseTokens r.vocabulary args).isEmpty then []
          else [.group .and false (parseTokens r.vocabulary args)]) ∧
      (parseTokens r.vocabulary (m :: "(" :: (args ++ [")"])) = [] ↔
        ¬ BeginsClause r.vocabulary args) ∧
      ((∀ t ∈ args, Symbol.ofToken? t = none → Value.bool? t = none ∧ r.classify t = none) →
        parseTokens r.vocabulary (m :: "(" :: (args ++ [")"])) = []) := by
  have hneeds : (ClauseKind.call kind).needsArguments = true := by
    rcases hkind with rfl | rfl <;> rfl
  obtain ⟨s, hs⟩ := Piece.first_rejected (v := r.vocabulary) hm hliteral hname hneeds hflat hsymbol
    [")"]
  have hgroup : parseTokens r.vocabulary (m :: "(" :: (args ++ [")"])) =
      (if (parseTokens r.vocabulary args).isEmpty then []
        else [.group .and false (parseTokens r.vocabulary args)]) := by
    rw [Reading.parseTokens_eq, Reading.readAll_cons, hs]
    exact parseTokens_parenthesized hflat.balanced
  have hempty : parseTokens r.vocabulary (m :: "(" :: (args ++ [")"])) = [] ↔
      ¬ BeginsClause r.vocabulary args := by
    rw [hgroup, ← parseTokens_flat_eq_nil hflat]
    cases parseTokens r.vocabulary args <;> simp
  exact ⟨hgroup, hempty, fun h => hempty.mpr (not_beginsClause h)⟩

/-- An argument list with unknown words around its symbol, and one with a truth value in it. -/
theorem parse_rejected_unknown :
    let r : Registry Unit := initial.register ⟨"HasQuest", .query, .host, fun _ _ => .answer true⟩
    parseTokens r.vocabulary ["HasQuest", "(", "1", "==", "2", ")"] = [] ∧
      parseTokens r.vocabulary ["HasQuest", "(", "true", "==", "2", ")"] =
        [.group .and false (parseTokens r.vocabulary ["true", "==", "2"])] := by
  intro r
  have hname : r.classify "HasQuest" = some (.query, "HasQuest") := by decide +kernel
  obtain ⟨-, -, hunknown⟩ := parse_rejected r "HasQuest" "HasQuest" .query (by decide) (by decide)
    hname (Or.inr rfl) ["1", "==", "2"] (by decide) (by decide)
  obtain ⟨hgroup, -, -⟩ := parse_rejected r "HasQuest" "HasQuest" .query (by decide) (by decide)
    hname (Or.inr rfl) ["true", "==", "2"] (by decide) (by decide)
  have hne : (parseTokens r.vocabulary ["true", "==", "2"]).isEmpty = false := by decide +kernel
  rw [hne] at hgroup
  exact ⟨hunknown (by decide +kernel), hgroup⟩

/-- A truth value among the arguments that a symbol has spoiled is a clause of its own. -/
theorem not_parse_rejected :
    ¬ ∀ (r : Registry Unit) (m method : String) (kind : PredicateKind),
      Symbol.ofToken? m = none → Value.bool? m = none → r.classify m = some (kind, method) →
      kind = .method ∨ kind = .query → ∀ args : List String, Flat args →
      (∃ t ∈ args, (Symbol.ofToken? t).isSome) →
      parseTokens r.vocabulary (m :: "(" :: (args ++ [")"])) = [] := by
  intro h
  have hquest := h (initial.register ⟨"HasQuest", .query, .host, fun _ _ => .answer true⟩)
    "HasQuest" "HasQuest" .query (by decide) (by decide) (by decide +kernel) (Or.inr rfl)
    ["true", "==", "1"] (by decide) (by decide)
  have hlength := congrArg List.length hquest
  revert hlength
  decide +kernel

end Registry

end Criteria
