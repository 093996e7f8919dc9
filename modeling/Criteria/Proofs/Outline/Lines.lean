import Criteria.Outline
import Criteria.Proofs.Reading.WellFormed
import Criteria.Proofs.Token.Parts

/-!
# The lines of an outline

An outline has one line for each expression, in the order in which expressions are written down. No
line is broken by what stands in it: of a condition it holds nothing but tokens, and no token has a
line end in it, as those outside of quotes separate tokens and those inside are left out.
-/
namespace Criteria

/-- A text that stays on one line. -/
def OneLine (s : String) : Prop := ∀ c ∈ s.toList, Token.isLineEnd c = false

theorem oneLine_iff {s : String} : OneLine s ↔ s.toList.all (!Token.isLineEnd ·) = true := by
  simp [OneLine]

instance (s : String) : Decidable (OneLine s) := decidable_of_iff _ oneLine_iff.symm

namespace OneLine

variable {s t : String}

theorem empty : OneLine "" := by decide

theorem append (hs : OneLine s) (ht : OneLine t) : OneLine (s ++ t) := by
  rw [OneLine, String.toList_append]
  exact List.forall_mem_append.mpr ⟨hs, ht⟩

theorem intercalate (hs : OneLine s) {ts : List String} (hts : ∀ t ∈ ts, OneLine t) :
    OneLine (s.intercalate ts) := by
  induction ts with
  | nil => exact empty
  | cons t ts ih =>
    obtain ⟨ht, hts⟩ := List.forall_mem_cons.mp hts
    -- Nothing stands behind the last text.
    cases ts with
    | nil => simpa using ht
    | cons t' ts =>
      rw [String.intercalate_cons_cons]
      exact (ht.append hs).append (ih hts)

theorem spaces (n : Nat) : OneLine (String.ofList (List.replicate n ' ')) := by
  intro c hc
  rw [String.toList_ofList] at hc
  obtain rfl : c = ' ' := List.eq_of_mem_replicate hc
  decide

theorem newline_notMem (hs : OneLine s) : '\n' ∉ s.toList := by
  intro hmem
  exact absurd (hs '\n' hmem) (by decide)

end OneLine

namespace Token

/-- Line ends are white space. -/
theorem isSeparator_of_isLineEnd {c : Char} (hc : isLineEnd c = true) : isSeparator c = true := by
  have hends : c = '\r' ∨ c = '\n' ∨ c = '\u2028' ∨ c = '\u2029' := by
    simpa [isLineEnd, or_assoc] using hc
  rcases hends with rfl | rfl | rfl | rfl <;> decide

/-- Line ends are kept neither outside of runs nor inside. -/
theorem isLineEnd_of_mem_contentFrom (inside : Option Char) (cs : List Char) :
    ∀ c ∈ contentFrom inside cs, isLineEnd c = false := by
  fun_induction contentFrom inside cs with
  | case1 => simp
  | case2 c cs hq ih => exact ih
  | case3 c cs hq hs ih => exact ih
  | case4 c cs hq hs ih =>
    refine List.forall_mem_cons.mpr ⟨?_, ih⟩
    rw [Bool.eq_false_iff]
    exact fun hc => hs (isSeparator_of_isLineEnd hc)
  | case5 quote cs ih => exact ih
  | case6 quote c cs hc hl ih => exact ih
  | case7 quote c cs hc hl ih => exact List.forall_mem_cons.mpr ⟨by simpa using hl, ih⟩

end Token

theorem oneLine_of_mem_tokenize {s : String} : ∀ t ∈ tokenize s, OneLine t := by
  intro t ht
  rw [tokenize, Token.split_eq_parts] at ht
  obtain ⟨content, hcontent, rfl⟩ := List.mem_map.mp ht
  obtain ⟨part, hpart, rfl⟩ := List.mem_map.mp (List.mem_filter.mp hcontent).1
  intro c hc
  rw [String.toList_ofList] at hc
  refine Token.isLineEnd_of_mem_contentFrom none s.toList c ?_
  rw [← Token.flatMap_content_parts]
  exact List.mem_flatMap.mpr ⟨part, hpart, hc⟩

namespace Clause

/-- What is written of a clause stays on one line. -/
structure OneLine (c : Clause) : Prop where
  keyword : Criteria.OneLine c.keyword
  params : ∀ p ∈ c.params, Criteria.OneLine p
  value : Criteria.OneLine c.value

variable {c : Clause}

theorem OneLine.argumentText (h : c.OneLine) : Criteria.OneLine c.argumentText := by
  rw [Clause.argumentText]
  split
  · have hinside : Criteria.OneLine (", ".intercalate c.params) := .intercalate (by decide) h.params
    exact (Criteria.OneLine.append (by decide) hinside).append (by decide)
  · exact .empty

theorem oneLine_operator (o : Operator) : Criteria.OneLine o.text := by
  rcases o with _ | c
  · decide
  · cases c <;> decide

theorem OneLine.comparisonText (h : c.OneLine) : Criteria.OneLine c.comparisonText := by
  rw [Clause.comparisonText]
  split
  · have hspace : Criteria.OneLine " " := by decide
    exact ((hspace.append (oneLine_operator c.operator)).append hspace).append h.value
  · exact .empty

theorem OneLine.body (h : c.OneLine) : Criteria.OneLine c.body :=
  (h.keyword.append h.argumentText).append h.comparisonText

theorem oneLine_group (j : Join) (negated : Bool) : (group j negated).OneLine where
  keyword := (by decide : Criteria.OneLine "(")
  params := by simp [group]
  value := .empty

/-- Without its negation a clause is written as its body. -/
theorem text_affirmed (hc : c.isGroup = false) : text { c with negated := false } = c.body := by
  have hnone : negationText { c with negated := false } = "" := if_neg Bool.false_ne_true
  have hbody : (if isGroup { c with negated := false } then "(" ++ Expr.listText [] ++ ")"
      else body { c with negated := false }) = c.body := if_neg (Bool.eq_false_iff.mp hc)
  rw [text, Expr.leaf, Expr.text, hnone, hbody, String.empty_append]

end Clause

namespace Piece

variable {v : Vocabulary}

/-- A piece of which nothing but a clause on one line may be made. -/
def OneLine : Piece → Prop
  | clause c => c.OneLine
  | _ => True

theorem oneLine_clause {t : String} {ts : List String} (h : ∀ x ∈ t :: ts, Criteria.OneLine x)
    {c : Clause} (hc : (first v t ts).1 = .clause c) : c.OneLine := by
  obtain ⟨ht, hts⟩ := List.forall_mem_cons.mp h
  rcases first_eq_clause hc with ⟨-, rfl⟩ | ⟨kind, method, params, n, operator, value, m, -, -, ha,
    hcomp, rfl⟩
  · exact ⟨ht, by simp [literal], ht⟩
  · refine ⟨ht, ?_, ?_⟩
    · rcases argumentsFor_eq_ok ha with ⟨-, rfl, -⟩ | ⟨-, o, e, rest, rfl, -⟩
      · simp
      · exact fun p hp => hts p (by simp [hp])
    · rcases comparisonFor_eq_ok hcomp with ⟨-, -, rfl, -⟩ | ⟨-, o, t', rest, -, hrest, -⟩
      · exact .empty
      · have hmem : value ∈ ts.drop n := by simp [hrest]
        exact hts value (List.mem_of_mem_drop hmem)

theorem oneLine_first {t : String} {ts : List String} (h : ∀ x ∈ t :: ts, Criteria.OneLine x) :
    (first v t ts).1.OneLine := by
  cases hp : (first v t ts).1 with
  | clause c => exact oneLine_clause h hp
  | _ => trivial

end Piece

namespace Expr

theorem builds_oneLine :
    Reading.Builds Piece.OneLine (fun _ _ => True) (fun e => e.clause.OneLine) where
  idle := trivial
  join _ _ _ _ := trivial
  negation _ _ _ _ := trivial
  leaf hc _ _ _ := ⟨hc.keyword, hc.params, hc.value⟩
  group {j negated _} _ _ _ := Clause.oneLine_group j negated

/-- All that is read of a text stays on one line. -/
theorem oneLine_of_mem (v : Vocabulary) {s : String} {e : Expr} (he : e ∈ listNodes (parse v s)) :
    e.clause.OneLine :=
  builds_oneLine.forall_nodes
    (Piece.forall_mem_scan (fun _ _ => Piece.oneLine_first) oneLine_of_mem_tokenize) e he

mutual

/-- An expression and all expressions inside it, in the order of `nodes`, each with its depth. That
of the expression itself is given. -/
def levels (depth : Nat) : Expr → List (Nat × Expr)
  | node c es => (depth, node c es) :: listLevels (depth + 1) es

def listLevels (depth : Nat) : List Expr → List (Nat × Expr)
  | [] => []
  | e :: es => levels depth e ++ listLevels depth es

end

theorem map_snd_listLevels (depth : Nat) (es : List Expr) :
    (listLevels depth es).map Prod.snd = listNodes es := by
  induction es using list_induction generalizing depth with
  | nil => rfl
  | node c inner rest hinner hrest =>
    rw [listLevels, listNodes, levels, nodes, List.map_append, List.map_cons, hinner, hrest]

end Expr

namespace Outline

/-- A list has the line of each expression inside it, if only groups have any. -/
theorem listLines_eq (indent depth : Nat) (es : List Expr)
    (h : ∀ n ∈ Expr.listNodes es, n.clause.isGroup = false → n.children = []) :
    listLines indent depth es =
      (Expr.listLevels depth es).map fun n => line indent n.1 n.2.clause := by
  induction es using Expr.list_induction generalizing depth with
  | nil => rfl
  | node c inner rest hinner hrest =>
    rw [Expr.listNodes] at h
    obtain ⟨hfirst, hlater⟩ := List.forall_mem_append.mp h
    obtain ⟨hown, hinside⟩ := Expr.forall_mem_nodes.mp hfirst
    rw [listLines, Expr.listLevels, List.map_append, hrest depth hlater, lines, Expr.levels,
      List.map_cons]
    cases hc : c.isGroup with
    | true =>
      rw [if_pos rfl, hinner (depth + 1) (Expr.forall_mem_listNodes.mpr hinside)]
      rfl
    | false =>
      obtain rfl : inner = [] := hown hc
      rfl

theorem oneLine_join (j : Join) : OneLine (Text.padRight 3 j.text) := by
  cases j <;> decide

theorem oneLine_line (indent depth : Nat) {c : Clause} (h : c.OneLine) :
    OneLine (line indent depth c) := by
  have hnegation : OneLine c.negationText := by
    rw [Clause.negationText]
    split <;> decide
  have hwritten : OneLine (if c.isGroup then "(group)" else c.body) := by
    split
    · decide
    · exact h.body
  have hspace : OneLine " " := by decide
  have hjoin : OneLine (String.ofList (List.replicate (depth * indent) ' ') ++
      Text.padRight 3 c.join.text) := (OneLine.spaces _).append (oneLine_join c.join)
  exact ((hjoin.append hspace).append hnegation).append hwritten

/-- The line of a clause says all of it: its join, its negation, and its text without these. -/
theorem line_eq (indent depth : Nat) (c : Clause) :
    line indent depth c = String.ofList (List.replicate (depth * indent) ' ') ++
      Text.padRight 3 c.join.text ++ " " ++ (if c.negated then "not " else "") ++
        if c.kind = .group then "(group)" else Clause.text { c with negated := false } := by
  have hwritten : (if c.isGroup then "(group)" else c.body) =
      if c.kind = .group then "(group)" else Clause.text { c with negated := false } := by
    cases hc : c.isGroup with
    | true => rw [if_pos rfl, if_pos (by simpa [Clause.isGroup] using hc)]
    | false =>
      rw [if_neg Bool.false_ne_true, if_neg (by simpa [Clause.isGroup] using hc),
        Clause.text_affirmed hc]
  rw [line, Clause.negationText, hwritten]

theorem joinLines_eq (ls : List String) :
    joinLines ls = (String.singleton '\n').intercalate (ls ++ [""]) := by
  induction ls with
  | nil => rfl
  | cons l ls ih =>
    have hbehind : ls ++ [""] ≠ [] := by simp
    rw [List.cons_append, String.intercalate_cons_of_ne_nil hbehind, ← ih]
    simp [joinLines]

/-- Between the newlines stand the lines, and behind the last newline there is nothing. -/
theorem split_joinLines {ls : List String} (h : ∀ l ∈ ls, OneLine l) :
    ((joinLines ls).split '\n').toList.map (·.copy) = ls ++ [""] := by
  have hlines : ∀ l ∈ ls ++ [""], '\n' ∉ l.toList :=
    List.forall_mem_append.mpr ⟨fun l hl => (h l hl).newline_notMem, by simp⟩
  have hsplit := String.toList_split_intercalate hlines
  rwa [if_neg (by simp), ← joinLines_eq] at hsplit

end Outline

namespace Registry

variable {ω : Type}

/-- The outline of what is read is a line for each expression, in their order and each ended by a
newline, and nothing else. A line is as far in as its expression is inside others, and says how the
expression is joined, whether it is negated, and its text or that it is a group. -/
theorem outline_lines (r : Registry ω) (s : String) (indent : Nat) :
    let tree := parse r.vocabulary s
    let written (depth : Nat) (c : Clause) : String :=
      String.ofList (List.replicate (depth * indent) ' ') ++ Text.padRight 3 c.join.text ++ " " ++
        (if c.negated then "not " else "") ++
          if c.kind = .group then "(group)" else Clause.text { c with negated := false }
    ((Outline.print indent tree).split '\n').toList.map (·.copy) =
      (Expr.listLevels 0 tree).map (fun n => written n.1 n.2.clause) ++ [""] := by
  intro tree written
  have hleaf : ∀ e ∈ Expr.listNodes tree, e.clause.isGroup = false → e.children = [] := by
    intro e he hc
    exact (Expr.wellFormed_of_mem he).leaf (by simpa [Clause.isGroup] using hc)
  have hlines : Outline.listLines indent 0 tree =
      (Expr.listLevels 0 tree).map fun n => written n.1 n.2.clause := by
    rw [Outline.listLines_eq indent 0 tree hleaf]
    exact List.map_congr_left fun n _ => Outline.line_eq indent n.1 n.2.clause
  have hone : ∀ l ∈ Outline.listLines indent 0 tree, OneLine l := by
    rw [Outline.listLines_eq indent 0 tree hleaf]
    intro l hl
    obtain ⟨n, hn, rfl⟩ := List.mem_map.mp hl
    have hnode : n.2 ∈ Expr.listNodes tree := by
      rw [← Expr.map_snd_listLevels 0 tree]
      exact List.mem_map_of_mem hn
    exact Outline.oneLine_line indent n.1 (Expr.oneLine_of_mem r.vocabulary hnode)
  rw [Outline.print, Outline.split_joinLines hone, hlines]

end Registry

/-- A line end inside quotes is no part of the token, and one outside of them is a separator. -/
example : Outline.print 3 (parse (Registry.initial (ω := Unit)).vocabulary
      "true\nor not (fa'l\nse' && 'tr\nue')") =
    "and true\nor  not (group)\n   and true\n" := by decide +kernel

end Criteria
