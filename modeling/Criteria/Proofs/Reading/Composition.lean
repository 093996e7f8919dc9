import Criteria.Condition
import Criteria.Proofs.Evaluation.Meaning
import Criteria.Proofs.Reading.Grouping
import Criteria.Proofs.Token.Spelling

/-!
# Conditions made of conditions

A text in parentheses means what it means on its own, whatever stands in it: nothing around the
parentheses is drawn into it, and nothing in it reaches out. So conditions may be joined and negated
as texts.
-/
namespace Criteria

namespace Evaluation

variable (ask : Clause → Dispatch)

theorem evaluateExpr_group (join : Join) (negated : Bool) (es : List Expr) :
    (evaluateExpr ask (.group join negated es)).value = ((evaluate ask es).value != negated) := by
  have hgroup : (Clause.group join negated).isGroup = true := rfl
  rw [Expr.group, evaluateExpr, if_pos hgroup]
  rfl

/-- A group by itself. -/
theorem evaluate_group (negated : Bool) (es : List Expr) :
    (evaluate ask [.group .and negated es]).value = ((evaluate ask es).value != negated) := by
  have hand : (Expr.group .and negated es).clause.join = .and := rfl
  rw [evaluate_singleton ask hand, evaluateExpr_group]

/-- Two groups, of which the second is joined by `and` or by `or`. -/
theorem evaluate_groups {join : Join} (hj : join ≠ .not) (es es' : List Expr) :
    (evaluate ask [.group .and false es, .group join false es']).value =
      if join = .or then (evaluate ask es).value || (evaluate ask es').value
      else (evaluate ask es).value && (evaluate ask es').value := by
  have hand : (Expr.group .and false es).clause.join = .and := rfl
  have hjoin : (Expr.group join false es').clause.join = join := rfl
  rw [evaluate_value_cons, hand, if_neg (by simp), foldFrom_value_cons, hjoin, foldFrom_nil,
    foldFrom_nil, siblingValue_of_ne_not ask _ (by simp [hand]),
    siblingValue_of_ne_not ask _ (hjoin ▸ hj), evaluateExpr_group, evaluateExpr_group,
    Bool.bne_false, Bool.bne_false]

end Evaluation

namespace Token

/-- The tokens of two texts in parentheses with a word between them. -/
theorem split_joined {cs ds word : List Char} (hc : Closed cs) (hd : Closed ds) (hw : IsAtom word) :
    split ('(' :: (cs ++ ')' :: ' ' :: (word ++ ' ' :: '(' :: (ds ++ [')'])))) =
      ['('] :: (split cs ++ [')'] :: word :: ['('] :: (split ds ++ [[')']])) := by
  rw [split_grouped hc, split_separator (by decide), hw.split_append (apart_cons (by decide) _),
    split_separator (by decide), split_grouped hd, split_nil]

end Token

/-- The tokens of two texts in parentheses with a join between them. -/
theorem tokenize_joined {s t : String} (hs : Token.Closed s.toList) (ht : Token.Closed t.toList)
    (j : Join) :
    tokenize ("(" ++ s ++ (") " ++ j.text ++ " (") ++ t ++ ")") =
      "(" :: (tokenize s ++ ")" :: j.text :: "(" :: (tokenize t ++ [")"])) := by
  have hsplit := congrArg (List.map String.ofList) (Token.split_joined hs ht (isAtom_join j))
  simpa [tokenize] using hsplit

theorem tokenize_negated {s : String} (hs : Token.Closed s.toList) :
    tokenize ("not (" ++ s ++ ")") = "not" :: "(" :: (tokenize s ++ [")"]) := by
  have hword : Token.IsAtom ['n', 'o', 't'] := isAtom_join .not
  have hsplit : Token.split (['n', 'o', 't'] ++ ' ' :: '(' :: (s.toList ++ [')'])) =
      ['n', 'o', 't'] :: ['('] :: (Token.split s.toList ++ [[')']]) := by
    rw [hword.split_append (Token.apart_cons (by decide) _),
      Token.split_separator (by decide), Token.split_grouped hs, Token.split_nil]
  have hmap := congrArg (List.map String.ofList) hsplit
  simpa [tokenize] using hmap

/-- Balanced tokens in parentheses are read as a group. -/
theorem readAll_parenthesized {v : Vocabulary} {a : List String} (ha : Balanced a)
    (hn : parseTokens v a ≠ []) (rest : List String) (r : Reading) :
    r.readAll v ("(" :: (a ++ ")" :: rest)) =
      (r.push (.group r.join r.negated (parseTokens v a))).clear.readAll v rest := by
  rw [Reading.readAll_group ha, if_neg (by simpa using hn)]

/-- Two groups with a join between them. -/
theorem parseTokens_joined {v : Vocabulary} {a b : List String} (ha : Balanced a) (hb : Balanced b)
    (hna : parseTokens v a ≠ []) (hnb : parseTokens v b ≠ []) {j : Join} (hj : j ≠ .not) :
    parseTokens v ("(" :: (a ++ ")" :: j.text :: "(" :: (b ++ [")"]))) =
      [.group .and false (parseTokens v a), .group j false (parseTokens v b)] := by
  rw [Reading.parseTokens_eq, readAll_parenthesized ha hna, Reading.readAll_cons,
    Piece.first_join hj, List.drop_zero, readAll_parenthesized hb hnb, Reading.readAll_nil]
  rfl

/-- A group with a negation in front of it. -/
theorem parseTokens_negated {v : Vocabulary} {a : List String} (ha : Balanced a)
    (hn : parseTokens v a ≠ []) :
    parseTokens v ("not" :: "(" :: (a ++ [")"])) = [.group .and true (parseTokens v a)] := by
  rw [Reading.parseTokens_eq, Reading.readAll_cons, Piece.first_negation, List.drop_zero,
    readAll_parenthesized ha hn, Reading.readAll_nil]
  rfl

namespace Registry

variable {ω : Type}

theorem check_eq (r : Registry ω) (world : ω) (s : String) :
    r.check world s =
      (Evaluation.evaluate (r.dispatch world) (parseTokens r.vocabulary (tokenize s))).value := rfl

/-- Conditions in parentheses mean what they mean on their own: a join between two of them joins
what they say, and a negation in front of one negates it. Whatever is read in them, also by mistake,
has to keep to the parentheses in them and must not end inside quotes. -/
theorem check_composition (r : Registry ω) (world : ω) (s t : String)
    (hs : Token.Closed s.toList) (ht : Token.Closed t.toList)
    (hbs : Balanced (tokenize s)) (hbt : Balanced (tokenize t))
    (hns : parse r.vocabulary s ≠ []) (hnt : parse r.vocabulary t ≠ []) :
    r.check world ("(" ++ s ++ ") and (" ++ t ++ ")") = (r.check world s && r.check world t) ∧
    r.check world ("(" ++ s ++ ") or (" ++ t ++ ")") = (r.check world s || r.check world t) ∧
    r.check world ("not (" ++ s ++ ")") = !r.check world s := by
  have hjoined : ∀ j ≠ Join.not,
      r.check world ("(" ++ s ++ (") " ++ j.text ++ " (") ++ t ++ ")") =
        if j = .or then r.check world s || r.check world t
        else r.check world s && r.check world t := by
    intro j hj
    rw [check_eq, check_eq, check_eq, tokenize_joined hs ht, parseTokens_joined hbs hbt hns hnt hj,
      Evaluation.evaluate_groups _ hj]
  refine ⟨?_, ?_, ?_⟩
  · rw [show ") and (" = ") " ++ Join.and.text ++ " (" by decide, hjoined .and (by simp),
      if_neg (by simp)]
  · rw [show ") or (" = ") " ++ Join.or.text ++ " (" by decide, hjoined .or (by simp), if_pos rfl]
  · rw [check_eq, check_eq, tokenize_negated hs, parseTokens_negated hbs hns,
      Evaluation.evaluate_group, Bool.bne_true]

theorem check_composition_malformed :
    let r : Registry Unit := initial.register ⟨"Level", .quantity, .host, fun _ _ => .answer true⟩
    let s := "false or true and Level >="
    let t := "',)' (not Level < 5) or"
    Token.Closed s.toList ∧ Token.Closed t.toList ∧ Balanced (tokenize s) ∧ Balanced (tokenize t) ∧
      parse r.vocabulary s ≠ [] ∧ parse r.vocabulary t ≠ [] ∧
      (r.check () ("(" ++ s ++ ") and (" ++ t ++ ")") = (r.check () s && r.check () t) ∧
        r.check () ("(" ++ s ++ ") or (" ++ t ++ ")") = (r.check () s || r.check () t) ∧
        r.check () ("not (" ++ s ++ ")") = !r.check () s) := by
  intro r s t
  have hs : Token.Closed s.toList := by decide
  have ht : Token.Closed t.toList := by decide
  have hbs : Balanced (tokenize s) := by decide +kernel
  have hbt : Balanced (tokenize t) := by decide +kernel
  have hns : parse r.vocabulary s ≠ [] := by decide +kernel
  have hnt : parse r.vocabulary t ≠ [] := by decide +kernel
  exact ⟨hs, ht, hbs, hbt, hns, hnt, check_composition r () s t hs ht hbs hbt hns hnt⟩

end Registry

end Criteria
