import Criteria.Proofs.Token.Splitting

/-!
# The parts of a text

A text falls into separators, quoted runs, words and runs of operator characters. Each part goes as
far as it can, and its content is a token unless nothing is left of it. So nothing of a text is lost
but separators, the quotes around runs, and the line ends inside them.
-/
namespace Criteria.Token

open Criteria.Symbol (isOperatorChar isBeginning)

inductive Part where
  | separator (c : Char)
  /-- A run with the quote that opens it. A run that is not closed goes on to the end of the
  text. -/
  | quoted (quote : Char) (run : List Char) (closed : Bool)
  | word (cs : List Char)
  | operator (cs : List Char)

namespace Part

/-- A part as it stands in the text. -/
def text : Part → List Char
  | separator c => [c]
  | quoted quote run closed => quote :: (run ++ if closed then [quote] else [])
  | word cs => cs
  | operator cs => cs

/-- What is left of a part without separators, quotes and the line ends of a quoted run. -/
def content : Part → List Char
  | separator _ => []
  | quoted _ run _ => run.filter (!isLineEnd ·)
  | word cs => cs
  | operator cs => cs

/-- A part is one of its sort, and goes on as far as it can in front of the text that follows it. -/
def EndsBefore (after : List Char) : Part → Prop
  | separator c => isSeparator c = true
  | quoted quote run closed => isQuote quote = true ∧ quote ∉ run ∧ (closed = false → after = [])
  | word cs => cs ≠ [] ∧ (∀ c ∈ cs, isPlain c = true) ∧ ∀ c ∈ after.head?, isPlain c = false
  | operator cs =>
    cs ≠ [] ∧ (∀ c ∈ cs, isOperatorChar c = true) ∧
      (∀ run, run <+: cs → isBeginning run = true) ∧
      ∀ c ∈ after.head?, isBeginning (cs ++ [c]) = false

/-- A word goes on backwards as far as it can, too. -/
def BeginsBehind (before : List Char) : Part → Prop
  | word _ => ∀ c ∈ before.getLast?, isPlain c = false
  | _ => True

/-- The text that parts make up. -/
def textOf (parts : List Part) : List Char := parts.flatMap text

@[simp] theorem textOf_nil : textOf [] = [] := rfl

@[simp] theorem textOf_cons (p : Part) (parts : List Part) :
    textOf (p :: parts) = p.text ++ textOf parts := List.flatMap_cons

@[simp] theorem textOf_append (a b : List Part) : textOf (a ++ b) = textOf a ++ textOf b :=
  List.flatMap_append

/-- Each of the parts ends where those behind it begin. -/
def Consecutive : List Part → Prop
  | [] => True
  | p :: parts => p.EndsBefore (textOf parts) ∧ Consecutive parts

theorem Consecutive.drop {before after : List Part} (h : Consecutive (before ++ after)) :
    Consecutive after := by
  induction before with
  | nil => exact h
  | cons p before ih => exact ih h.2

theorem EndsBefore.text_ne_nil {p : Part} {after : List Char} (h : p.EndsBefore after) :
    p.text ≠ [] := by
  cases p with
  | separator c => exact List.cons_ne_nil _ _
  | quoted quote run closed => exact List.cons_ne_nil _ _
  | word cs => exact h.1
  | operator cs => exact h.1

end Part

/-- The parts of a text, in order. -/
def parts : List Char → List Part
  | [] => []
  | c :: rest =>
    if isQuote c then
      .quoted c (rest.takeWhile (· != c)) (rest.contains c) :: parts (afterQuoted c rest)
    else if isSeparator c then .separator c :: parts rest
    else if isOperatorChar c then .operator (extend [c] rest).1 :: parts (extend [c] rest).2
    else .word (c :: rest.takeWhile isPlain) :: parts (rest.dropWhile isPlain)
termination_by cs => cs.length
decreasing_by
  · exact Nat.lt_succ_of_le (length_afterQuoted_le c rest)
  · exact Nat.lt_succ_self _
  · exact Nat.lt_succ_of_le (length_extend_le [c] rest)
  · exact Nat.lt_succ_of_le (List.dropWhile_sublist (l := rest) isPlain).length_le

/-- The characters of a text that its tokens consist of, from inside the run that a quote has opened
or from outside all runs. -/
def contentFrom : Option Char → List Char → List Char
  | _, [] => []
  | none, c :: cs =>
    if isQuote c then contentFrom (some c) cs
    else if isSeparator c then contentFrom none cs
    else c :: contentFrom none cs
  | some quote, c :: cs =>
    if c = quote then contentFrom none cs
    else if isLineEnd c then contentFrom (some quote) cs
    else c :: contentFrom (some quote) cs

/-- The answer to a call for the next token, and the text that is left for the next call. -/
def take : List Char → Option (List Char) × List Char
  | [] => (none, [])
  | c :: rest =>
    if isQuote c then
      if (quoted c rest).isEmpty then take (afterQuoted c rest)
      else (some (quoted c rest), afterQuoted c rest)
    else if isSeparator c then take rest
    else if isOperatorChar c then (some (extend [c] rest).1, (extend [c] rest).2)
    else (some (c :: rest.takeWhile isPlain), rest.dropWhile isPlain)
termination_by cs => cs.length
decreasing_by
  · exact Nat.lt_succ_of_le (length_afterQuoted_le c rest)
  · exact Nat.lt_succ_self _

/-- The text that is left after a number of calls. -/
def left (cs : List Char) : Nat → List Char
  | 0 => cs
  | n + 1 => (take (left cs n)).2

/-- The answer to the call with a number. -/
def answer (cs : List Char) (n : Nat) : Option (List Char) := (take (left cs n)).1

/-- A run, the quote that closes it, and what follows make up the text behind the opening quote. -/
theorem takeWhile_append_afterQuoted (quote : Char) (cs : List Char) :
    cs.takeWhile (· != quote) ++ ((if cs.contains quote then [quote] else []) ++
      afterQuoted quote cs) = cs := by
  induction cs with
  | nil => rfl
  | cons c cs ih =>
    by_cases hc : c = quote
    · simp [afterQuoted, hc]
    · have hcontains : (c :: cs).contains quote = cs.contains quote := by
        simp [Ne.symm hc]
      have hafter : afterQuoted quote (c :: cs) = afterQuoted quote cs := by
        simp [afterQuoted, hc]
      rw [List.takeWhile_cons_of_pos (by simpa using hc), hcontains, hafter, List.cons_append, ih]

theorem afterQuoted_of_not_contains {quote : Char} {cs : List Char}
    (h : cs.contains quote = false) : afterQuoted quote cs = [] := by
  have hdrop : cs.dropWhile (· != quote) = [] := by
    rw [List.dropWhile_eq_nil_iff]
    intro c hc
    have hne : c ≠ quote := by
      rintro rfl
      simp [hc] at h
    simpa using hne
  rw [afterQuoted, hdrop, List.drop_nil]

/-- What begins a symbol consists of operator characters. -/
theorem isOperatorChar_of_isBeginning {run : List Char} (h : isBeginning run = true) :
    ∀ c ∈ run, isOperatorChar c = true := by
  obtain ⟨entry, hentry, hrun⟩ := List.any_eq_true.mp h
  intro c hc
  refine List.any_eq_true.mpr ⟨entry, hentry, ?_⟩
  exact List.contains_iff_mem.mpr ((List.isPrefixOf_iff_prefix.mp hrun).subset hc)

/-- Each operator character begins a symbol. -/
theorem isBeginning_singleton {c : Char} (hc : isOperatorChar c = true) : isBeginning [c] = true := by
  have hall : ∀ c ∈ ['&', '|', '=', '!', '<', '>', '(', ')'], isBeginning [c] = true :=
    List.all_iff_forall_prop.mp (by decide)
  exact hall c ((isOperatorChar_iff c).mp hc)

/-- A run of operator characters is extended as long as it begins a symbol. -/
theorem extend_maximal {run : List Char} (hrun : ∀ r, r <+: run → isBeginning r = true)
    (cs : List Char) :
    (∀ r, r <+: (extend run cs).1 → isBeginning r = true) ∧
      ∀ c ∈ (extend run cs).2.head?, isBeginning ((extend run cs).1 ++ [c]) = false := by
  induction cs generalizing run with
  | nil => exact ⟨hrun, by simp⟩
  | cons c cs ih =>
    rw [extend]
    split
    · next hc =>
      refine ih fun r hr => ?_
      rcases List.prefix_concat_iff.mp hr with rfl | hr
      · exact (Bool.and_eq_true_iff.mp hc).2
      · exact hrun r hr
    · next hc =>
      refine ⟨hrun, fun x hx => ?_⟩
      obtain rfl : c = x := by simpa using hx
      rw [Bool.eq_false_iff]
      intro hb
      exact hc (Bool.and_eq_true_iff.mpr ⟨isOperatorChar_of_isBeginning hb c (by simp), hb⟩)

theorem textOf_parts (cs : List Char) : Part.textOf (parts cs) = cs := by
  fun_induction parts cs with
  | case1 => rfl
  | case2 c rest hq ih =>
    rw [Part.textOf_cons, ih, Part.text, List.cons_append, List.append_assoc,
      takeWhile_append_afterQuoted]
  | case3 c rest hq hs ih => rw [Part.textOf_cons, ih, Part.text, List.singleton_append]
  | case4 c rest hq hs ho ih =>
    obtain ⟨more, hmore, hrest, -, -⟩ := extend_spec [c] rest
    rw [Part.textOf_cons, ih, Part.text, hmore, List.append_assoc, ← hrest, List.singleton_append]
  | case5 c rest hq hs ho ih =>
    rw [Part.textOf_cons, ih, Part.text, List.cons_append, List.takeWhile_append_dropWhile]

theorem consecutive_parts (cs : List Char) : Part.Consecutive (parts cs) := by
  fun_induction parts cs with
  | case1 => trivial
  | case2 c rest hq ih =>
    refine ⟨⟨hq, ?_, ?_⟩, ih⟩
    · intro hmem
      simpa using List.mem_takeWhile_imp hmem
    · intro hclosed
      rw [textOf_parts, afterQuoted_of_not_contains hclosed]
  | case3 c rest hq hs ih => exact ⟨hs, ih⟩
  | case4 c rest hq hs ho ih =>
    obtain ⟨more, hmore, -⟩ := extend_spec [c] rest
    have hone : ∀ r, r <+: [c] → isBeginning r = true := by
      intro r hr
      have hone : r <+: [] ++ [c] := hr
      rcases List.prefix_concat_iff.mp hone with rfl | hr
      · exact isBeginning_singleton ho
      · rw [List.prefix_nil.mp hr]
        exact Symbol.isBeginning_nil
    obtain ⟨hruns, hstop⟩ := extend_maximal hone rest
    refine ⟨⟨by simp [hmore], ?_, hruns, ?_⟩, ih⟩
    · exact isOperatorChar_of_isBeginning (hruns _ (List.prefix_refl _))
    · rwa [textOf_parts]
  | case5 c rest hq hs ho ih =>
    have hc : isPlain c = true := by simp [isPlain, hq, hs, ho]
    refine ⟨⟨List.cons_ne_nil _ _, ?_, ?_⟩, ih⟩
    · exact List.forall_mem_cons.mpr ⟨hc, fun x hx => List.mem_takeWhile_imp hx⟩
    · rw [textOf_parts]
      intro x hx
      have hstop := List.head?_dropWhile_not isPlain rest
      rwa [Option.mem_def.mp hx] at hstop

/-- The tokens are what is left of the parts, where something is left. -/
theorem split_eq_parts (cs : List Char) :
    split cs = ((parts cs).map Part.content).filter (!·.isEmpty) := by
  fun_induction parts cs with
  | case1 => exact split_nil
  | case2 c rest hq ih =>
    have hcontent : (rest.takeWhile (· != c)).filter (!isLineEnd ·) = quoted c rest := rfl
    rw [List.map_cons, Part.content, hcontent, split_quote hq, ih]
    by_cases hempty : quoted c rest = []
    · rw [if_pos hempty, List.nil_append, List.filter_cons_of_neg (by simp [hempty])]
    · rw [if_neg hempty, List.singleton_append, List.filter_cons_of_pos (by simpa using hempty)]
  | case3 c rest hq hs ih =>
    rw [split_separator hs, ih]
    rfl
  | case4 c rest hq hs ho ih =>
    obtain ⟨more, hmore, -⟩ := extend_spec [c] rest
    rw [List.map_cons, Part.content, List.filter_cons_of_pos (by simp [hmore]), ← ih]
    exact split_of_some (next?_operator ho rest)
  | case5 c rest hq hs ho ih =>
    have hc : isPlain c = true := by simp [isPlain, hq, hs, ho]
    rw [List.map_cons, Part.content, List.filter_cons_of_pos (by simp), ← ih]
    exact split_of_some (next?_plain hc rest)

theorem contentFrom_some (quote : Char) (cs : List Char) :
    contentFrom (some quote) cs = quoted quote cs ++ contentFrom none (afterQuoted quote cs) := by
  induction cs with
  | nil => rfl
  | cons c cs ih =>
    by_cases hc : c = quote
    · simp [contentFrom, quoted, afterQuoted, hc]
    · have hafter : afterQuoted quote (c :: cs) = afterQuoted quote cs := by
        simp [afterQuoted, hc]
      rw [contentFrom, if_neg hc, hafter, ih]
      cases hl : isLineEnd c <;> simp [quoted, hc, hl]

/-- Characters that neither open a run nor separate are kept. -/
theorem contentFrom_none_append {run : List Char}
    (hrun : ∀ c ∈ run, isQuote c = false ∧ isSeparator c = false) (cs : List Char) :
    contentFrom none (run ++ cs) = run ++ contentFrom none cs := by
  induction run with
  | nil => rfl
  | cons c run ih =>
    obtain ⟨⟨hq, hs⟩, hrun⟩ := List.forall_mem_cons.mp hrun
    rw [List.cons_append, contentFrom, if_neg (by simp [hq]), if_neg (by simp [hs]), ih hrun,
      List.cons_append]

theorem of_isPlain {c : Char} (hc : isPlain c = true) :
    isQuote c = false ∧ isSeparator c = false := by
  simp only [isPlain, Bool.and_eq_true, Bool.not_eq_true'] at hc
  exact ⟨hc.1.2, hc.1.1⟩

theorem flatMap_content_parts (cs : List Char) :
    (parts cs).flatMap Part.content = contentFrom none cs := by
  fun_induction parts cs with
  | case1 => rfl
  | case2 c rest hq ih => rw [List.flatMap_cons, ih, contentFrom, if_pos hq, contentFrom_some]; rfl
  | case3 c rest hq hs ih =>
    rw [List.flatMap_cons, ih, contentFrom, if_neg hq, if_pos hs]
    rfl
  | case4 c rest hq hs ho ih =>
    obtain ⟨more, hmore, hrest, hop, -⟩ := extend_spec [c] rest
    rw [List.flatMap_cons, ih, Part.content, hmore]
    have hrun : ∀ x ∈ [c] ++ more, isQuote x = false ∧ isSeparator x = false :=
      List.forall_mem_cons.mpr ⟨of_isOperatorChar ho, fun x hx => of_isOperatorChar (hop x hx)⟩
    rw [← contentFrom_none_append hrun, List.append_assoc, ← hrest, List.singleton_append]
  | case5 c rest hq hs ho ih =>
    have hc : isPlain c = true := by simp [isPlain, hq, hs, ho]
    have hrun : ∀ x ∈ c :: rest.takeWhile isPlain, isQuote x = false ∧ isSeparator x = false :=
      List.forall_mem_cons.mpr ⟨of_isPlain hc, fun x hx => of_isPlain (List.mem_takeWhile_imp hx)⟩
    rw [List.flatMap_cons, ih, Part.content, ← contentFrom_none_append hrun, List.cons_append,
      List.takeWhile_append_dropWhile]

/-- A call answers with the first token and goes on behind it. Without one it uses up the text. -/
theorem take_eq (cs : List Char) :
    take cs = match next? cs with
      | some (token, rest) => (some token, rest)
      | none => (none, []) := by
  fun_induction take cs with
  | case1 => rw [next?_nil]
  | case2 c rest hq he ih => rw [ih, next?_quote hq, if_pos he]
  | case3 c rest hq he => rw [next?_quote hq, if_neg he]
  | case4 c rest hq hs ih => rw [ih, next?_separator hs]
  | case5 c rest hq hs ho => rw [next?_operator ho]
  | case6 c rest hq hs ho => rw [next?_plain (by simp [isPlain, hq, hs, ho])]

/-- A call without an answer has used up the text. -/
theorem take_of_none {cs : List Char} (h : (take cs).1 = none) : (take cs).2 = [] := by
  rw [take_eq] at h ⊢
  cases hnext : next? cs with
  | none => rfl
  | some found => simp [hnext] at h

/-- A call takes the first token away. -/
theorem take_split (cs : List Char) :
    (take cs).1 = (split cs).head? ∧ split (take cs).2 = (split cs).tail := by
  rw [take_eq]
  cases hnext : next? cs with
  | none => simp [split_of_none hnext]
  | some found => simp [split_of_some hnext]

theorem split_left (cs : List Char) (n : Nat) : split (left cs n) = (split cs).drop n := by
  induction n with
  | zero => rfl
  | succ n ih => rw [left, (take_split _).2, ih, List.tail_drop]

/-- The calls answer with the tokens, one after another, and with nothing behind the last one. -/
theorem answer_eq_getElem? (cs : List Char) (n : Nat) : answer cs n = (split cs)[n]? := by
  rw [answer, (take_split _).1, split_left, List.head?_drop]

/-- What is in front of a word is no part of it, as the part in front of it ends there. -/
theorem Part.Consecutive.beginsBehind {before after : List Part} {p : Part}
    (h : Consecutive (before ++ p :: after)) : p.BeginsBehind (textOf before) := by
  cases p with
  | word cs =>
    rcases before.eq_nil_or_concat with rfl | ⟨before, q, rfl⟩
    · simp [BeginsBehind]
    rw [List.concat_eq_append, List.append_assoc] at h
    obtain ⟨hq, hcs, -⟩ := h.drop
    obtain ⟨x, xs, rfl⟩ := List.exists_cons_of_ne_nil hcs.1
    have hx : isPlain x = true := hcs.2.1 x (by simp)
    intro c hc
    rw [List.concat_eq_append, textOf_append, textOf_cons, textOf_nil, List.append_nil,
      List.getLast?_append] at hc
    rw [Option.or_of_isSome (by simpa using hq.text_ne_nil)] at hc
    have hmem : c ∈ q.text := List.mem_of_getLast? hc
    cases q with
    | separator s =>
      obtain rfl : c = s := List.mem_singleton.mp hmem
      have hs : isSeparator c = true := hq
      simp [isPlain, hs]
    | quoted quote run closed =>
      cases closed with
      | false =>
        -- A run that is not closed has nothing behind it.
        have hend := hq.2.2 rfl
        simp [text] at hend
      | true =>
        have hlast : ((quote :: run) ++ [quote]).getLast? = some quote := List.getLast?_concat
        obtain rfl : quote = c := Option.some.inj (hlast.symm.trans hc)
        simp [isPlain, hq.1]
    | word ds =>
      have hstop : isPlain x = false := hq.2.2 x rfl
      simp [hx] at hstop
    | operator ds => simp [isPlain, hq.2.1 c hmem]
  | _ => trivial

/-- The calls for tokens answer with all of them, and with nothing only when all of the text is used
up. No token is empty, and together they are the text without its separators, its quotes and the
line ends inside quoted runs. Outside of these a token is a word or a run of operator characters,
and goes as far as it can. -/
theorem tokenize_lossless (s : String) :
    (∀ n, (answer s.toList n).map String.ofList = (tokenize s)[n]?) ∧
    (∀ n, answer s.toList n = none →
      left s.toList (n + 1) = [] ∧ ∀ m, n ≤ m → answer s.toList m = none) ∧
    (∀ token ∈ tokenize s, token ≠ "") ∧
    (tokenize s).flatMap String.toList = contentFrom none s.toList ∧
    ∃ parts : List Part, Part.textOf parts = s.toList ∧
      tokenize s = ((parts.map Part.content).filter (!·.isEmpty)).map String.ofList ∧
      ∀ before p after, parts = before ++ p :: after →
        p.BeginsBehind (Part.textOf before) ∧ p.EndsBefore (Part.textOf after) := by
  have htokens : tokenize s =
      (((parts s.toList).map Part.content).filter (!·.isEmpty)).map String.ofList := by
    rw [tokenize, split_eq_parts]
  refine ⟨?_, ?_, ?_, ?_, parts s.toList, textOf_parts s.toList, htokens, ?_⟩
  · intro n
    rw [answer_eq_getElem?, tokenize, List.getElem?_map]
  · intro n hn
    refine ⟨take_of_none hn, fun m hm => ?_⟩
    rw [answer_eq_getElem?, List.getElem?_eq_none_iff] at hn ⊢
    exact Nat.le_trans hn hm
  · intro token ht
    rw [htokens] at ht
    obtain ⟨content, hcontent, rfl⟩ := List.mem_map.mp ht
    simpa using (List.mem_filter.mp hcontent).2
  · calc
      (tokenize s).flatMap String.toList =
          (((parts s.toList).map Part.content).filter (!·.isEmpty)).flatten := by
        rw [htokens, List.flatMap_map]
        simp [List.flatMap]
      _ = (parts s.toList).flatMap Part.content := List.flatten_filter_not_isEmpty
      _ = contentFrom none s.toList := flatMap_content_parts s.toList
  · intro before p after hparts
    have hconsecutive := consecutive_parts s.toList
    rw [hparts] at hconsecutive
    exact ⟨hconsecutive.beginsBehind, hconsecutive.drop.1⟩

example : tokenize "a>>=b,'x,\ny'\"\" 'z" = ["a", ">", ">=", "b", "x,y", "z"] := by decide +kernel

end Criteria.Token
