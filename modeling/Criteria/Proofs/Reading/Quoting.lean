import Criteria.Proofs.Reading.Concatenation
import Criteria.Proofs.Registry.Naming
import Criteria.Proofs.Token.Words

/-!
# Quoted literals

Quotes keep a text together, but a literal is read without them. So a quantity may be compared with
any quoted text that is not empty, unless the text is a symbol or the name of a predicate. With such
a text the comparison is dropped, and the text is read as if it stood alone.
-/
namespace Criteria

/-- The texts that a vocabulary admits as literals, with or without quotes. -/
structure Vocabulary.Admits (v : Vocabulary) (s : String) : Prop where
  ne_empty : s ≠ ""
  noSymbol : Symbol.ofToken? s = none
  unknown : v.isKnown s = false

namespace Piece

variable {v : Vocabulary} {name method : String}

/-- A quantity reads the comparison behind its name, and is passed over alone if there is none. -/
theorem first_quantity (hname : Symbol.ofToken? name = none) (hbool : Value.bool? name = none)
    (hknown : v.classify name = some (.quantity, method)) (ts : List String) :
    first v name ts =
      match comparison v ts with
      | .ok (op, value) =>
        (.clause { keyword := name, kind := .call .quantity, method, operator := some op, value }, 2)
      | .error flaw => (.malformed name (.call .quantity) flaw, 0) := by
  have harguments : argumentsFor .quantity ts = .ok ([], 0) := by
    rw [argumentsFor, if_neg (by simp [readsArguments, ClauseKind.needsArguments])]
  have hcomparison : comparisonFor v .quantity ts =
      (comparison v ts).map fun found => (some found.1, found.2, 2) := by
    rw [comparisonFor, if_pos (by simp [readsComparison, ClauseKind.needsComparison])]
  rw [first_call hname hbool hknown]
  simp only [call, harguments, List.drop_zero, hcomparison]
  cases comparison v ts <;> rfl

/-- Behind a comparator one text is a literal just if it is admitted. -/
theorem comparison_quoted (op : Comparator) (s : String) :
    (v.Admits s → comparison v [op.text, s] = .ok (op, s)) ∧
      (¬v.Admits s →
        ∃ flaw, comparison v (op.text :: if s = "" then [] else [s]) = .error flaw) := by
  have hop : Symbol.ofToken? op.text = some (.compare op) := by cases op <;> rfl
  refine ⟨fun h => ?_, fun h => ?_⟩
  · exact comparison_eq_ok.mpr ⟨_, _, rfl, hop, h.noSymbol, h.unknown⟩
  · split
    · exact ⟨_, comparison_alone hop⟩
    · next hne =>
      cases hc : comparison v [op.text, s] with
      | error flaw => exact ⟨flaw, rfl⟩
      | ok found =>
        obtain ⟨t, rest, hts, -, hsymbol, hunknown⟩ := comparison_eq_ok.mp hc
        obtain ⟨-, rfl, -⟩ : op.text = t ∧ s = found.2 ∧ rest = [] := by simpa using hts
        exact absurd ⟨hne, hsymbol, hunknown⟩ h

end Piece

namespace Reading

variable {v : Vocabulary} {name method : String} {op : Comparator}

/-- A quantity whose comparison is dropped leaves no trace, and neither does the comparator. -/
theorem parseTokens_flawed (hname : Symbol.ofToken? name = none)
    (hbool : Value.bool? name = none) (hknown : v.classify name = some (.quantity, method))
    {ts : List String} {flaw : Flaw} (h : Piece.comparison v (op.text :: ts) = .error flaw) :
    parseTokens v (name :: op.text :: ts) = parseTokens v ts := by
  rw [parseTokens_eq, readAll_cons, Piece.first_quantity hname hbool hknown, h, List.drop_zero,
    readAll_cons, Piece.first_comparator]
  rfl

theorem parseTokens_compared (hname : Symbol.ofToken? name = none)
    (hbool : Value.bool? name = none) (hknown : v.classify name = some (.quantity, method))
    {s : String} (h : Piece.comparison v [op.text, s] = .ok (op, s)) :
    parseTokens v [name, op.text, s] =
      [.leaf { keyword := name, kind := .call .quantity, method, operator := some op,
               value := s }] := by
  rw [parseTokens_eq, readAll_cons, Piece.first_quantity hname hbool hknown, h]
  exact congrArg root (readAll_nil v _)

/-- One token alone is no comparison. -/
theorem operator_of_mem_parseTokens {t : String} {e : Expr} (he : e ∈ parseTokens v [t]) :
    e.clause.operator = none := by
  have hroot : parseTokens v [t] = (start.step (Piece.first v t []).1).root := by
    rw [parseTokens_eq, readAll_cons, List.drop_nil, readAll_nil]
  rw [hroot] at he
  cases hp : (Piece.first v t []).1 with
  | clause c =>
    obtain rfl : e = .leaf { c with join := .and, negated := false } := by
      simpa [hp, step, addClause, push, start, join] using he
    rcases Piece.first_eq_clause hp with ⟨-, rfl⟩ |
      ⟨kind, method, params, n, operator, value, m, -, -, -, hcomparison, rfl⟩
    · rfl
    · rw [List.drop_nil] at hcomparison
      rcases Piece.comparisonFor_eq_ok hcomparison with ⟨-, hnone, -⟩ | ⟨-, c, x, rest, -, hnil, -⟩
      · exact hnone
      · cases hnil
  | closing => rw [hp] at he; cases he
  | _ => simp [hp, step, start, openGroup] at he

end Reading

namespace Registry

variable {ω : Type}

/-- The name of a quantity stands for it, in any case. -/
theorem Sound.classify_quantity {r : Registry ω} (hr : r.Sound) {e : Entry ω} (he : e ∈ r.entries)
    (hkind : e.kind = .quantity) {name : String}
    (hname : Text.lowercase name = Text.lowercase e.name)
    (hpoint : name.toList.contains '.' = false) :
    r.classify name = some (.quantity, e.name) := by
  rw [classify_of_no_point hpoint, classifyPlain_eq, hr.named?_name he hname, if_pos hkind]
  rfl

/-- A quantity that is compared with a quoted text is read as just that comparison if the text is
admitted as a literal, and only then. Otherwise what is read is what the quoted text is read as on
its own. -/
theorem parse_quoted [Number.Decimals] (changes : List (Change ω)) (e : Entry ω)
    (he : e ∈ (built changes).entries) (hkind : e.kind = .quantity) (name : String)
    (hname : Text.lowercase name = Text.lowercase e.name) (hword : PlainWord name)
    (hpoint : name.toList.contains '.' = false) (hbool : Value.bool? name = none)
    (op : Comparator) (s : String) (hs : Quotable s) :
    let v := (built changes).vocabulary
    let text := name ++ " " ++ op.text ++ " '" ++ s ++ "'"
    let c : Clause :=
      { keyword := name, kind := .call .quantity, method := e.name, operator := some op, value := s }
    (parse v text = [.leaf c] ↔ v.Admits s) ∧
      (¬v.Admits s → parse v text = parse v ("'" ++ s ++ "'")) := by
  intro v text c
  have hknown : v.classify name = some (.quantity, e.name) :=
    (sound_built changes).classify_quantity he hkind hname hpoint
  have htokens : tokenize text = name :: op.text :: if s = "" then [] else [s] :=
    ((Spells.plain hword).spaced (.word (isAtom_comparator op))).tokenize_quoted hs
  obtain ⟨hadmitted, hflawed⟩ := Piece.comparison_quoted (v := v) op s
  have hdropped (h : ¬v.Admits s) : parse v text = parse v ("'" ++ s ++ "'") := by
    obtain ⟨flaw, hflaw⟩ := hflawed h
    rw [parse, parse, htokens, tokenize_quoted hs,
      Reading.parseTokens_flawed hword.noSymbol hbool hknown hflaw]
  refine ⟨⟨fun h => ?_, fun h => ?_⟩, hdropped⟩
  · by_contra hnot
    rw [hdropped hnot, parse, tokenize_quoted hs] at h
    split at h
    · rw [Reading.parseTokens_eq, Reading.readAll_nil] at h
      exact List.cons_ne_nil _ _ h.symm
    · have hmem : Expr.leaf c ∈ parseTokens v [s] := h ▸ List.mem_singleton_self _
      exact Option.some_ne_none op (Reading.operator_of_mem_parseTokens hmem)
  · rw [parse, htokens, if_neg h.ne_empty]
    exact Reading.parseTokens_compared hword.noSymbol hbool hknown (hadmitted h)

/-- A text with separators and operator characters in it, and one that is the name of a flag. -/
theorem parse_quoted_harbor :
    let zone : Entry Unit := ⟨"Zone", .quantity, .host, fun _ _ => .answer true⟩
    let dead : Entry Unit := ⟨"IsDead", .flag, .host, fun _ _ => .answer true⟩
    let v := (built [.register dead, .register zone]).vocabulary
    let c : Clause := { keyword := "zone", kind := .call .quantity, method := "Zone" }
    let harbor : Clause := { c with operator := some .notEqual, value := " not (Harbor, 1) >= and" }
    parse v ("zone" ++ " " ++ "!=" ++ " '" ++ " not (Harbor, 1) >= and" ++ "'") = [.leaf harbor] ∧
      parse v ("zone" ++ " " ++ "==" ++ " '" ++ "isdead" ++ "'") =
        parse v ("'" ++ "isdead" ++ "'") := by
  intro zone dead v c harbor
  have hmem : zone ∈ (built [.register dead, .register zone]).entries :=
    mem_built [.register dead] zone
  have hword : PlainWord "zone" := by decide +kernel
  have hadmits : v.Admits " not (Harbor, 1) >= and" := ⟨by decide, by decide, by decide +kernel⟩
  have hdead : ¬v.Admits "isdead" := fun h => absurd h.unknown (by decide +kernel)
  constructor
  · exact (parse_quoted _ zone hmem rfl "zone" (by decide +kernel) hword (by decide) (by decide)
      .notEqual " not (Harbor, 1) >= and" (by decide +kernel)).1.mpr hadmits
  · exact (parse_quoted _ zone hmem rfl "zone" (by decide +kernel) hword (by decide) (by decide)
      .equal "isdead" (by decide +kernel)).2 hdead

/-- A word that is a symbol is no literal, although it is quoted. -/
theorem not_parse_quoted :
    ¬ ∀ (changes : List (Change Unit)) (e : Entry Unit), e ∈ (built changes).entries →
      e.kind = .quantity → PlainWord e.name → e.name.toList.contains '.' = false →
      Value.bool? e.name = none → ∀ (op : Comparator) (s : String), Quotable s →
      ∃ c : Clause, c.kind = .call .quantity ∧ c.operator = some op ∧ c.value = s ∧
        parse (built changes).vocabulary (e.name ++ " " ++ op.text ++ " '" ++ s ++ "'") =
          [.leaf c] := by
  intro h
  obtain ⟨c, -, -, -, hparse⟩ := h [.register ⟨"Zone", .quantity, .host, fun _ _ => .answer true⟩]
    ⟨"Zone", .quantity, .host, fun _ _ => .answer true⟩ (mem_built [] _) rfl
    (by decide +kernel) (by decide) (by decide) .equal "and" (by decide +kernel)
  have hlength := congrArg List.length hparse
  rw [List.length_singleton] at hlength
  exact absurd hlength (by decide +kernel)

end Registry

end Criteria
