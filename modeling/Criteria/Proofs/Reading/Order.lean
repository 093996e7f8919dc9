import Criteria.Proofs.Reading.Building
import Criteria.Proofs.Reading.Grouping
import Criteria.Registry
import Mathlib.Data.List.Basic

/-!
# What tokens are used for

Expressions are written of names, arguments, comparisons and parentheses. Read from left to right,
those of all expressions that are read are tokens of the condition in their order, each used once.
This also holds where clauses and groups in between are dropped, and although the tokens behind the
name of a malformed clause are looked at once more.
-/
namespace Criteria

/-- What a token is to the reader: a symbol, however it is spelled, or a word. -/
inductive Sign where
  | symbol (s : Symbol)
  | word (text : String)
deriving DecidableEq

namespace Sign

def ofToken (t : String) : Sign :=
  match Symbol.ofToken? t with
  | some s => symbol s
  | none => word t

theorem ofToken_symbol {t : String} {s : Symbol} (h : Symbol.ofToken? t = some s) :
    ofToken t = symbol s := by
  rw [ofToken, h]

theorem ofToken_word {t : String} (h : Symbol.ofToken? t = none) : ofToken t = word t := by
  rw [ofToken, h]

theorem map_ofToken_words {ts : List String} (h : ∀ t ∈ ts, Symbol.ofToken? t = none) :
    ts.map ofToken = ts.map word :=
  List.map_congr_left fun t ht => ofToken_word (h t ht)

end Sign

/-- The comparison of a clause. A truth value has none. -/
def Clause.comparisonSigns (c : Clause) : List Sign :=
  if c.kind = .literal then []
  else match c.operator with
    | some o => [.symbol (.compare o), .word c.value]
    | none => []

/-- The name of a clause, its arguments and its comparison. -/
def Clause.signs (c : Clause) : List Sign :=
  .word c.keyword :: (c.params.map .word ++ c.comparisonSigns)

namespace Expr

mutual

/-- What an expression is written of, with parentheses around what is in a group. -/
def signs : Expr → List Sign
  | node c es =>
    if c.isGroup then .symbol .openParen :: (listSigns es ++ [.symbol .closeParen]) else c.signs

def listSigns : List Expr → List Sign
  | [] => []
  | e :: es => signs e ++ listSigns es

end

theorem listSigns_append (es es' : List Expr) :
    listSigns (es ++ es') = listSigns es ++ listSigns es' := by
  induction es with
  | nil => rfl
  | cons e es ih => rw [List.cons_append, listSigns, listSigns, ih, List.append_assoc]

theorem listSigns_singleton (e : Expr) : listSigns [e] = e.signs := by
  rw [listSigns, listSigns, List.append_nil]

theorem signs_leaf {c : Clause} (h : c.kind ≠ .group) : (leaf c).signs = c.signs := by
  rw [leaf, signs, if_neg (by simpa [Clause.isGroup] using h)]

theorem signs_group (j : Join) (negated : Bool) (es : List Expr) :
    (group j negated es).signs =
      .symbol .openParen :: (listSigns es ++ [.symbol .closeParen]) := by
  rw [group, signs]
  exact if_pos rfl

end Expr

namespace Piece

variable {v : Vocabulary} {kind : PredicateKind}

/-- What a piece is written of. Of connectives and of what is dropped nothing is kept. -/
def signs : Piece → List Sign
  | opening => [.symbol .openParen]
  | closing => [.symbol .closeParen]
  | clause c => (Expr.leaf c).signs
  | join _ | negation | stray _ | malformed _ _ _ | unrecognized _ => []

/-- Arguments are among the tokens that are taken for them. -/
theorem arguments_sublist {ts params : List String} {n : Nat}
    (h : argumentsFor kind ts = .ok (params, n)) :
    (params.map Sign.word).Sublist ((ts.take n).map Sign.ofToken) := by
  rcases argumentsFor_eq_ok h with ⟨-, rfl, -⟩ | ⟨-, o, c, rest, rfl, -, hp, -, rfl⟩
  · exact List.nil_sublist _
  · have hinside : params.Sublist (o :: (params ++ [c])) :=
      (List.sublist_append_left params [c]).trans (List.sublist_cons_self o _)
    rw [take_arguments, ← Sign.map_ofToken_words hp]
    exact hinside.map Sign.ofToken

/-- A comparison is the tokens that are taken for it. -/
theorem comparison_signs {ts : List String} {operator : Operator} {value : String} {n : Nat}
    (h : comparisonFor v kind ts = .ok (operator, value, n)) (c : Clause)
    (hkind : c.kind ≠ .literal) (hoperator : c.operator = operator) (hvalue : c.value = value) :
    c.comparisonSigns = (ts.take n).map Sign.ofToken := by
  rw [Clause.comparisonSigns, if_neg hkind, hoperator, hvalue]
  rcases comparisonFor_eq_ok h with ⟨-, rfl, -, rfl⟩ | ⟨-, o, t, rest, rfl, rfl, ht, hword, -, rfl⟩
  · rfl
  · simp [Sign.ofToken_symbol ht, Sign.ofToken_word hword]

/-- The clause that a name begins is written of the name and of the tokens that it takes. -/
theorem call_sublist (method keyword : String) (ts : List String) :
    (call v kind method keyword ts).1.signs.Sublist
      (.word keyword :: (ts.take (call v kind method keyword ts).2).map Sign.ofToken) := by
  rw [call]
  cases ha : argumentsFor kind ts with
  | error flaw => exact List.nil_sublist _
  | ok found =>
    obtain ⟨params, n⟩ := found
    cases hc : comparisonFor v kind (ts.drop n) with
    | error flaw =>
      simp only [hc, signs]
      exact List.nil_sublist _
    | ok found =>
      obtain ⟨operator, value, m⟩ := found
      simp only [hc, signs]
      rw [Expr.signs_leaf (by simp), Clause.signs, comparison_signs hc _ (by simp) rfl rfl,
        List.take_add, List.map_append]
      exact ((arguments_sublist ha).append_right _).cons_cons _

/-- A piece is written of the tokens that it passes over. -/
theorem first_sublist (t : String) (ts : List String) :
    (first v t ts).1.signs.Sublist
      (Sign.ofToken t :: (ts.take (first v t ts).2).map Sign.ofToken) := by
  cases ht : Symbol.ofToken? t with
  | some s =>
    rw [Sign.ofToken_symbol ht]
    cases s <;> simp [first, ht, signs]
  | none =>
    rw [Sign.ofToken_word ht, first_word ht, word]
    split
    · exact List.Sublist.refl _
    · split
      · exact call_sublist _ _ ts
      · exact List.nil_sublist _

end Piece

namespace Reading

/-- What the open groups are written of so far, the outermost first. -/
def frameSigns : List Frame → List Sign
  | [] => []
  | f :: fs => frameSigns fs ++ .symbol .openParen :: Expr.listSigns f.children

/-- What all that has been read is written of. -/
def signs (r : Reading) : List Sign := Expr.listSigns r.root ++ frameSigns r.frames

/-- An expression is put behind all that has been read. -/
theorem signs_push (r : Reading) (e : Expr) : (r.push e).signs = r.signs ++ e.signs := by
  rcases r with ⟨join?, negated, _ | ⟨f, fs⟩, root⟩ <;>
    simp [push, signs, frameSigns, Expr.listSigns_append, Expr.listSigns_singleton]

@[simp] theorem signs_clear (r : Reading) : r.clear.signs = r.signs := rfl

theorem signs_openGroup (r : Reading) : r.openGroup.signs = r.signs ++ [.symbol .openParen] := by
  simp [openGroup, signs, frameSigns, Expr.listSigns]

/-- A group that is closed is written where it was opened. -/
theorem closeGroup_sublist (r : Reading) :
    r.closeGroup.signs.Sublist (r.signs ++ [.symbol .closeParen]) := by
  rcases r with ⟨join?, negated, _ | ⟨f, fs⟩, root⟩
  · exact List.sublist_append_left _ _
  · by_cases hempty : f.children = []
    · rw [closeGroup_of_nil hempty]
      simp only [signs, frameSigns, List.append_assoc]
      exact (List.sublist_append_left _ _).append_left _
    · rw [closeGroup_of_ne_nil hempty, signs_push, Expr.signs_group]
      simp [signs, frameSigns]

/-- One more piece adds to the end what it is written of. -/
theorem step_sublist (r : Reading) (p : Piece) : (r.step p).signs.Sublist (r.signs ++ p.signs) := by
  cases p with
  | closing => exact r.closeGroup_sublist
  | opening => rw [step, signs_clear, signs_openGroup, Piece.signs]
  | clause c =>
    rw [step, signs_clear, addClause, signs_push]
    exact List.Sublist.refl _
  | _ => exact List.sublist_append_left _ _

/-- What is read of tokens is written of them, behind what has been read before. -/
theorem readAll_sublist (v : Vocabulary) (r : Reading) (ts : List String) :
    (r.readAll v ts).signs.Sublist (r.signs ++ ts.map Sign.ofToken) := by
  induction hn : ts.length using Nat.strong_induction_on generalizing ts r with
  | _ n ih =>
    cases ts with
    | nil => simp
    | cons t ts =>
      have hlength : (ts.drop (Piece.first v t ts).2).length < n := by
        rw [← hn, List.length_drop, List.length_cons]
        omega
      have hparts : ts.map Sign.ofToken = (ts.take (Piece.first v t ts).2).map Sign.ofToken ++
          (ts.drop (Piece.first v t ts).2).map Sign.ofToken := by
        rw [← List.map_append, List.take_append_drop]
      have hpiece : (r.step (Piece.first v t ts).1).signs.Sublist (r.signs ++
          Sign.ofToken t :: (ts.take (Piece.first v t ts).2).map Sign.ofToken) :=
        (r.step_sublist _).trans ((Piece.first_sublist t ts).append_left _)
      rw [readAll_cons, List.map_cons, hparts, ← List.cons_append, ← List.append_assoc]
      exact (ih _ hlength _ _ rfl).trans (hpiece.append_right _)

end Reading

namespace Registry

variable {ω : Type}

/-- The names, arguments, comparisons and parentheses of all expressions that are read are tokens of
the condition in their order, each used once. -/
theorem parse_signs_sublist (r : Registry ω) (ts : List String) :
    (Expr.listSigns (parseTokens r.vocabulary ts)).Sublist (ts.map Sign.ofToken) := by
  have hread := Reading.start.readAll_sublist r.vocabulary ts
  have hroot := List.sublist_append_left (Expr.listSigns (parseTokens r.vocabulary ts))
    (Reading.frameSigns (Reading.start.readAll r.vocabulary ts).frames)
  exact hroot.trans hread

end Registry

end Criteria
