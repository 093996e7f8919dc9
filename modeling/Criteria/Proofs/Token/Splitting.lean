import Criteria.Token
import Mathlib.Data.Bool.AllAny
import Mathlib.Data.List.Induction
import Mathlib.Data.List.TakeWhile

/-!
# Where texts may be cut

A text whose quoted runs are all closed is split on its own, whatever follows, as long as what
follows does not go on with its last token. A token of a text without quotes is itself split into
one token. No token goes on at a separator, so a text may be cut there unless a run is open.
-/
namespace Criteria.Token

open Criteria.Symbol (isOperatorChar isBeginning)

/-- The quote that has opened the run in which a text ends, if it ends inside a run. It begins
inside a run that the given quote has opened, if one is given. -/
def quoteAfter : Option Char → List Char → Option Char
  | inside, [] => inside
  | none, c :: cs => quoteAfter (if isQuote c then some c else none) cs
  | some quote, c :: cs => quoteAfter (if c = quote then none else some quote) cs

/-- All quoted runs are closed. -/
def Closed (cs : List Char) : Prop := quoteAfter none cs = none

instance (cs : List Char) : Decidable (Closed cs) := inferInstanceAs (Decidable (_ = _))

theorem closed_cons {c : Char} (hc : isQuote c = false) (cs : List Char) :
    Closed (c :: cs) ↔ Closed cs := by
  rw [Closed, quoteAfter, hc]
  rfl

/-- Characters that open no run may be taken away from the beginning. -/
theorem Closed.drop {a b : List Char} (h : Closed (a ++ b)) (ha : ∀ c ∈ a, isQuote c = false) :
    Closed b := by
  induction a with
  | nil => exact h
  | cons c a ih =>
    rw [List.cons_append, closed_cons (ha c (by simp))] at h
    exact ih h fun x hx => ha x (by simp [hx])

theorem closed_of_no_quotes {cs : List Char} (h : ∀ c ∈ cs, isQuote c = false) : Closed cs := by
  induction cs with
  | nil => rfl
  | cons c cs ih =>
    rw [closed_cons (h c (by simp))]
    exact ih fun x hx => h x (by simp [hx])

/-- A run that is closed has a closing quote, and the text goes on behind it. -/
theorem exists_of_quoteAfter_some {quote : Char} {cs : List Char}
    (h : quoteAfter (some quote) cs = none) :
    ∃ run rest, cs = run ++ quote :: rest ∧ (∀ c ∈ run, (c != quote) = true) ∧ Closed rest := by
  induction cs with
  | nil => simp [quoteAfter] at h
  | cons c cs ih =>
    rw [quoteAfter] at h
    by_cases hc : c = quote
    · rw [if_pos hc] at h
      exact ⟨[], cs, by rw [hc, List.nil_append], by simp, h⟩
    · rw [if_neg hc] at h
      obtain ⟨run, rest, rfl, hrun, hrest⟩ := ih h
      refine ⟨c :: run, rest, rfl, ?_, hrest⟩
      intro x hx
      rcases List.mem_cons.mp hx with rfl | hx
      · simpa using hc
      · exact hrun x hx

/-- The quote that is open behind two texts is told from the first one, and then from the other. -/
theorem quoteAfter_append (inside : Option Char) (a b : List Char) :
    quoteAfter inside (a ++ b) = quoteAfter (quoteAfter inside a) b := by
  induction a generalizing inside with
  | nil => simp [quoteAfter]
  | cons c a ih =>
    cases inside with
    | none => rw [List.cons_append, quoteAfter, quoteAfter, ih]
    | some quote => rw [List.cons_append, quoteAfter, quoteAfter, ih]

/-- A text that ends inside a run is a closed text and the run behind it. -/
theorem exists_of_quoteAfter_none {quote : Char} {cs : List Char}
    (h : quoteAfter none cs = some quote) :
    ∃ before run, cs = before ++ quote :: run ∧ Closed before ∧ isQuote quote = true ∧
      ∀ c ∈ run, (c != quote) = true := by
  -- The last character opens the run or is a part of it, so the induction is from the end.
  induction cs using List.reverseRecOn with
  | nil => simp [quoteAfter] at h
  | append_singleton cs c ih =>
    rw [quoteAfter_append] at h
    cases hcs : quoteAfter none cs with
    | none =>
      by_cases hc : isQuote c = true
      · obtain rfl : c = quote := by simpa [hcs, quoteAfter, hc] using h
        exact ⟨cs, [], rfl, hcs, hc, by simp⟩
      · simp [hcs, quoteAfter, hc] at h
    | some opened =>
      by_cases hc : c = opened
      · simp [hcs, quoteAfter, hc] at h
      · obtain rfl : opened = quote := by simpa [hcs, quoteAfter, hc] using h
        obtain ⟨before, run, rfl, hbefore, hquote, hrun⟩ := ih hcs
        refine ⟨before, run ++ [c], by simp, hbefore, hquote, ?_⟩
        exact List.forall_mem_append.mpr ⟨hrun, List.forall_mem_singleton.mpr (by simpa using hc)⟩

theorem quoted_append {quote : Char} {run : List Char} (h : ∀ c ∈ run, (c != quote) = true)
    (rest : List Char) : quoted quote (run ++ quote :: rest) = run.filter (!isLineEnd ·) := by
  rw [quoted, List.takeWhile_append_of_pos h, List.takeWhile_cons_of_neg (by simp), List.append_nil]

theorem afterQuoted_append {quote : Char} {run : List Char} (h : ∀ c ∈ run, (c != quote) = true)
    (rest : List Char) : afterQuoted quote (run ++ quote :: rest) = rest := by
  rw [afterQuoted, List.dropWhile_append_of_pos h, List.dropWhile_cons_of_neg (by simp)]
  rfl

/-- The characters that occur in symbols. -/
theorem isOperatorChar_iff (c : Char) :
    isOperatorChar c = true ↔ c ∈ ['&', '|', '=', '!', '<', '>', '(', ')'] := by
  simp [isOperatorChar, Symbol.written, Comparator.all, Comparator.text]
  grind

/-- The characters that no token in front of them goes on with. -/
def isBorder (c : Char) : Bool := isSeparator c || isQuote c || c = '(' || c = ')'

/-- What begins behind any token. -/
def Apart (cs : List Char) : Prop := ∀ c ∈ cs.head?, isBorder c = true

theorem apart_nil : Apart [] := by simp [Apart]

theorem apart_cons {c : Char} (hc : isBorder c = true) (cs : List Char) : Apart (c :: cs) := by
  simpa [Apart] using hc

/-- No operator character opens a run or separates. -/
theorem of_isOperatorChar {c : Char} (hc : isOperatorChar c = true) :
    isQuote c = false ∧ isSeparator c = false := by
  have hall : ∀ c ∈ ['&', '|', '=', '!', '<', '>', '(', ')'],
      isQuote c = false ∧ isSeparator c = false := List.all_iff_forall_prop.mp (by decide)
  exact hall c ((isOperatorChar_iff c).mp hc)

theorem isOperatorChar_of_isSeparator {c : Char} (hc : isSeparator c = true) :
    isOperatorChar c = false :=
  Bool.eq_false_iff.mpr fun ho => by simp [(of_isOperatorChar ho).2] at hc

theorem isOperatorChar_of_isQuote {c : Char} (hc : isQuote c = true) : isOperatorChar c = false :=
  Bool.eq_false_iff.mpr fun ho => by simp [(of_isOperatorChar ho).1] at hc

theorem isQuote_of_isSeparator {c : Char} (hc : isSeparator c = true) : isQuote c = false := by
  rw [Bool.eq_false_iff]
  intro hq
  have hquotes : c = '"' ∨ c = '\x27' := by simpa [isQuote] using hq
  rcases hquotes with rfl | rfl <;> exact absurd hc (by decide)

theorem isBorder_iff (c : Char) :
    isBorder c = true ↔ isSeparator c = true ∨ isQuote c = true ∨ c = '(' ∨ c = ')' := by
  simp [isBorder, or_assoc]

theorem isPlain_of_isBorder {c : Char} (hc : isBorder c = true) : isPlain c = false := by
  rcases (isBorder_iff c).mp hc with hc | hc | rfl | rfl
  · simp [isPlain, hc]
  · simp [isPlain, hc]
  · decide
  · decide

/-- No symbol goes on behind its first character with a parenthesis. -/
theorem isBeginning_paren {run : List Char} (hr : run ≠ []) {c : Char} (hc : c = '(' ∨ c = ')') :
    isBeginning (run ++ [c]) = false := by
  have htail : ∀ entry ∈ Symbol.written, '(' ∉ entry.1.toList.tail ∧ ')' ∉ entry.1.toList.tail := by
    decide
  have hmem : c ∈ run.tail ++ [c] := by simp
  rw [isBeginning, List.any_eq_false]
  intro entry hentry hp
  obtain ⟨rest, hrest⟩ := List.isPrefixOf_iff_prefix.mp hp
  obtain ⟨x, xs, rfl⟩ := List.exists_cons_of_ne_nil hr
  have hc' : c ∈ entry.1.toList.tail := by
    rw [← hrest]
    exact List.mem_append_left _ hmem
  rcases hc with rfl | rfl
  · exact (htail entry hentry).1 hc'
  · exact (htail entry hentry).2 hc'

theorem isQuote_of_isPlain {c : Char} (hc : isPlain c = true) : isQuote c = false := by
  simp only [isPlain, Bool.and_eq_true, Bool.not_eq_true'] at hc
  exact hc.1.2

/-- A word does not go on at a border. -/
theorem takeWhile_isPlain_append {b : List Char} (hb : Apart b) (a : List Char) :
    (a ++ b).takeWhile isPlain = a.takeWhile isPlain ∧
      (a ++ b).dropWhile isPlain = a.dropWhile isPlain ++ b := by
  induction a with
  | nil =>
    cases b with
    | nil => exact ⟨rfl, rfl⟩
    | cons c b =>
      have hc : ¬ isPlain c = true := by simp [isPlain_of_isBorder (hb c rfl)]
      exact ⟨List.takeWhile_cons_of_neg hc, List.dropWhile_cons_of_neg hc⟩
  | cons c a ih =>
    cases hc : isPlain c <;> simp [hc, ih]

/-- A run of operator characters does not go on at a border. -/
theorem extend_of_apart {run : List Char} (hr : run ≠ []) {cs : List Char} (hcs : Apart cs) :
    extend run cs = (run, cs) := by
  cases cs with
  | nil => rfl
  | cons c cs =>
    have hc : isBorder c = true := hcs c rfl
    have hstop : (isOperatorChar c && isBeginning (run ++ [c])) = false := by
      rcases (isBorder_iff c).mp hc with hc | hc | hc
      · rw [isOperatorChar_of_isSeparator hc, Bool.false_and]
      · rw [isOperatorChar_of_isQuote hc, Bool.false_and]
      · rw [isBeginning_paren hr hc, Bool.and_false]
    rw [extend, hstop]
    rfl

/-- What follows behind a border does not change how far a run goes. -/
theorem extend_append {run : List Char} (hr : run ≠ []) (a : List Char) {b : List Char}
    (hb : Apart b) : extend run (a ++ b) = ((extend run a).1, (extend run a).2 ++ b) := by
  induction a generalizing run with
  | nil => rw [List.nil_append, extend_of_apart hr hb, extend_nil, List.nil_append]
  | cons c a ih =>
    rw [List.cons_append, extend, extend]
    split
    · exact ih (by simp)
    · rfl

/-- A run takes characters from the beginning of the text, all of them operator characters, and
would take the same ones if there were no others. -/
theorem extend_spec (run cs : List Char) :
    ∃ more, extend run cs = (run ++ more, cs.drop more.length) ∧
      cs = more ++ cs.drop more.length ∧ (∀ c ∈ more, isOperatorChar c = true) ∧
      extend run more = (run ++ more, []) := by
  induction cs generalizing run with
  | nil => exact ⟨[], by simp, by simp, by simp, by simp⟩
  | cons c cs ih =>
    rw [extend]
    split
    · next hc =>
      obtain ⟨more, hmore, hcs, hop, hself⟩ := ih (run ++ [c])
      refine ⟨c :: more, by simpa using hmore, by simpa using hcs, ?_, ?_⟩
      · intro x hx
        rcases List.mem_cons.mp hx with rfl | hx
        · exact (Bool.and_eq_true_iff.mp hc).1
        · exact hop x hx
      · rw [extend, if_pos hc, hself, List.append_assoc, List.singleton_append]
    · exact ⟨[], by simp, by simp, by simp, by simp⟩

theorem split_congr {a b : List Char} (h : next? a = next? b) : split a = split b := by
  cases hb : next? b with
  | none => rw [split_of_none (h.trans hb), split_of_none hb]
  | some found => rw [split_of_some (h.trans hb), split_of_some hb]

theorem next?_quote {c : Char} (hc : isQuote c = true) (cs : List Char) :
    next? (c :: cs) =
      if (quoted c cs).isEmpty then next? (afterQuoted c cs)
      else some (quoted c cs, afterQuoted c cs) := by
  rw [next?, if_pos hc]

theorem next?_separator {c : Char} (hs : isSeparator c = true) (cs : List Char) :
    next? (c :: cs) = next? cs := by
  rw [next?, if_neg (by simp [isQuote_of_isSeparator hs]), if_pos hs]

theorem next?_operator {c : Char} (ho : isOperatorChar c = true) (cs : List Char) :
    next? (c :: cs) = some (extend [c] cs) := by
  obtain ⟨hq, hs⟩ := of_isOperatorChar ho
  rw [next?, if_neg (by simp [hq]), if_neg (by simp [hs]), if_pos ho]

theorem next?_plain {c : Char} (hc : isPlain c = true) (cs : List Char) :
    next? (c :: cs) = some (c :: cs.takeWhile isPlain, cs.dropWhile isPlain) := by
  simp only [isPlain, Bool.and_eq_true, Bool.not_eq_true'] at hc
  rw [next?, if_neg (by simp [hc]), if_neg (by simp [hc]), if_neg (by simp [hc])]

/-- A character opens a run, separates, is part of an operator or of a word. -/
theorem char_cases (c : Char) :
    isQuote c = true ∨ (isQuote c = false ∧ isSeparator c = true) ∨ isOperatorChar c = true ∨
      isPlain c = true := by
  cases hq : isQuote c <;> cases hs : isSeparator c <;> cases ho : isOperatorChar c <;>
    simp [isPlain, hq, hs, ho]

/-- The first token of a closed text is found whatever is put behind the text, and the rest of the
text is closed again. -/
theorem next?_append {a : List Char} (ha : Closed a) {b : List Char} (hb : Apart b) :
    (next? a = none ∧ next? (a ++ b) = next? b) ∨
      ∃ token rest, next? a = some (token, rest) ∧ next? (a ++ b) = some (token, rest ++ b) ∧
        Closed rest := by
  induction hn : a.length using Nat.strong_induction_on generalizing a with
  | _ n ih =>
    cases a with
    | nil => exact Or.inl ⟨next?_nil, rfl⟩
    | cons c cs =>
      subst hn
      rcases char_cases c with hc | ⟨hq, hs⟩ | ho | hp
      · rw [Closed, quoteAfter, hc, if_pos rfl] at ha
        obtain ⟨run, rest, rfl, hrun, hrest⟩ := exists_of_quoteAfter_some ha
        rw [List.cons_append, List.append_assoc, List.cons_append, next?_quote hc, next?_quote hc,
          quoted_append hrun, quoted_append hrun, afterQuoted_append hrun, afterQuoted_append hrun]
        split
        · exact ih _ (by simp; omega) hrest rfl
        · exact Or.inr ⟨_, _, rfl, rfl, hrest⟩
      · rw [closed_cons hq] at ha
        rw [List.cons_append, next?_separator hs, next?_separator hs]
        exact ih _ (by simp) ha rfl
      · obtain ⟨more, hmore, hcs, hop, -⟩ := extend_spec [c] cs
        rw [closed_cons (of_isOperatorChar ho).1, hcs] at ha
        refine Or.inr ⟨_, _, next?_operator ho cs, ?_, ?_⟩
        · rw [List.cons_append, next?_operator ho, extend_append (List.cons_ne_nil c []) cs hb]
        · rw [hmore]
          exact ha.drop fun x hx => (of_isOperatorChar (hop x hx)).1
      · have hword : ∀ x ∈ cs.takeWhile isPlain, isQuote x = false := by
          intro x hx
          exact isQuote_of_isPlain (List.mem_takeWhile_imp hx)
        rw [closed_cons (isQuote_of_isPlain hp),
          ← List.takeWhile_append_dropWhile (p := isPlain) (l := cs)] at ha
        refine Or.inr ⟨_, _, next?_plain hp cs, ?_, ha.drop hword⟩
        obtain ⟨htake, hdrop⟩ := takeWhile_isPlain_append hb cs
        rw [List.cons_append, next?_plain hp, htake, hdrop]

/-- The first token of a text without quotes is one token if it stands alone, and there are no
quotes in it or behind it. -/
theorem next?_self {cs token rest : List Char} (hcs : ∀ c ∈ cs, isQuote c = false)
    (h : next? cs = some (token, rest)) :
    next? token = some (token, []) ∧ (∀ c ∈ token, isQuote c = false) ∧
      ∀ c ∈ rest, isQuote c = false := by
  induction cs with
  | nil => simp at h
  | cons c cs ih =>
    have hrest : ∀ x ∈ cs, isQuote x = false := fun x hx => hcs x (List.mem_cons_of_mem c hx)
    rcases char_cases c with hc | ⟨hq, hs⟩ | ho | hp
    · simp [hcs c (by simp)] at hc
    · rw [next?_separator hs] at h
      exact ih hrest h
    · obtain ⟨more, hmore, hsplit, -, hself⟩ := extend_spec [c] cs
      rw [next?_operator ho, hmore, Option.some.injEq, Prod.mk.injEq] at h
      obtain ⟨rfl, rfl⟩ := h
      refine ⟨by rw [List.singleton_append, next?_operator ho, hself]; rfl, ?_, ?_⟩
      · intro x hx
        rcases List.mem_cons.mp hx with rfl | hx
        · exact hcs x (by simp)
        · exact hrest x (hsplit ▸ List.mem_append_left _ hx)
      · exact fun x hx => hrest x (List.mem_of_mem_drop hx)
    · rw [next?_plain hp, Option.some.injEq, Prod.mk.injEq] at h
      obtain ⟨rfl, rfl⟩ := h
      refine ⟨?_, ?_, ?_⟩
      · have hword : ∀ x ∈ cs.takeWhile isPlain, isPlain x = true := fun _ => List.mem_takeWhile_imp
        rw [next?_plain hp, List.takeWhile_eq_self_iff.mpr hword, List.dropWhile_eq_nil_iff.mpr hword]
      · intro x hx
        rcases List.mem_cons.mp hx with rfl | hx
        · exact hcs x (by simp)
        · exact isQuote_of_isPlain (List.mem_takeWhile_imp hx)
      · exact fun x hx => hrest x ((List.dropWhile_sublist _).subset hx)

/-- A token that is written without quotes. -/
structure IsAtom (token : List Char) : Prop where
  split : split token = [token]
  noQuote : ∀ c ∈ token, isQuote c = false

theorem IsAtom.closed {token : List Char} (h : IsAtom token) : Closed token :=
  closed_of_no_quotes h.noQuote

/-- The tokens of a text without quotes are written without quotes. -/
theorem isAtom_of_mem_split {cs : List Char} (hcs : ∀ c ∈ cs, isQuote c = false) :
    ∀ token ∈ split cs, IsAtom token := by
  induction hn : cs.length using Nat.strong_induction_on generalizing cs with
  | _ n ih =>
    intro token ht
    cases h : next? cs with
    | none => simp [split_of_none h] at ht
    | some found =>
      obtain ⟨first, rest⟩ := found
      obtain ⟨hself, hfirst, hrest⟩ := next?_self hcs h
      rw [split_of_some h] at ht
      rcases List.mem_cons.mp ht with rfl | ht
      · exact ⟨by rw [split_of_some hself, split_nil], hfirst⟩
      · exact ih _ (hn ▸ length_lt_of_next? h) hrest rfl token ht

/-- A closed text is split on its own. -/
theorem split_append {a : List Char} (ha : Closed a) {b : List Char} (hb : Apart b) :
    split (a ++ b) = split a ++ split b := by
  induction hn : a.length using Nat.strong_induction_on generalizing a with
  | _ n ih =>
    rcases next?_append ha hb with ⟨hnone, hab⟩ | ⟨token, rest, hsome, hab, hrest⟩
    · rw [split_of_none hnone, List.nil_append, split_congr hab]
    · rw [split_of_some hsome, split_of_some hab, List.cons_append,
        ih _ (hn ▸ length_lt_of_next? hsome) hrest rfl]

/-- What a quote opens is a token if anything is left of it, and the tokens behind it follow. -/
theorem split_quote {c : Char} (hc : isQuote c = true) (cs : List Char) :
    split (c :: cs) =
      (if quoted c cs = [] then [] else [quoted c cs]) ++ split (afterQuoted c cs) := by
  have hnext := next?_quote hc cs
  by_cases hempty : quoted c cs = []
  · rw [if_pos (by simpa using hempty)] at hnext
    rw [if_pos hempty, List.nil_append, split_congr hnext]
  · rw [if_neg (by simpa using hempty)] at hnext
    rw [if_neg hempty, List.singleton_append, split_of_some hnext]

theorem split_separator {c : Char} (hc : isSeparator c = true) (cs : List Char) :
    split (c :: cs) = split cs :=
  split_congr (next?_separator hc cs)

/-- A closed text and what stands behind a separator are split each on its own. -/
theorem split_append_separator {a : List Char} (ha : Closed a) {c : Char}
    (hc : isSeparator c = true) (b : List Char) : split (a ++ c :: b) = split a ++ split b := by
  have hborder : isBorder c = true := (isBorder_iff c).mpr (.inl hc)
  rw [split_append ha (apart_cons hborder b), split_separator hc]

/-- A parenthesis is a token of its own. -/
theorem split_parenthesis {c : Char} (hc : c = '(' ∨ c = ')') (cs : List Char) :
    split (c :: cs) = [c] :: split cs := by
  have hop : isOperatorChar c = true := by rcases hc with rfl | rfl <;> decide
  have halone : ∀ entry ∈ Symbol.written,
      (entry.1.toList.head? = some '(' → entry.1.toList.tail = []) ∧
        (entry.1.toList.head? = some ')' → entry.1.toList.tail = []) := by decide
  have hstop : extend [c] cs = ([c], cs) := by
    cases cs with
    | nil => rfl
    | cons x cs =>
      have hnot : isBeginning [c, x] = false := by
        rw [isBeginning, List.any_eq_false]
        intro entry hentry hp
        obtain ⟨rest, hrest⟩ := List.isPrefixOf_iff_prefix.mp hp
        have hhead : entry.1.toList.head? = some c := by rw [← hrest]; rfl
        have htail : entry.1.toList.tail = [] := by
          rcases hc with rfl | rfl
          · exact (halone entry hentry).1 hhead
          · exact (halone entry hentry).2 hhead
        rw [← hrest] at htail
        simp at htail
      rw [extend, List.singleton_append, hnot, Bool.and_false]
      rfl
  rw [split_of_some (next?_operator hop cs), hstop]

/-- A text in parentheses is split on its own. -/
theorem split_grouped {cs : List Char} (h : Closed cs) (rest : List Char) :
    split ('(' :: (cs ++ ')' :: rest)) = ['('] :: (split cs ++ [')'] :: split rest) := by
  rw [split_parenthesis (Or.inl rfl), split_append h (apart_cons (by decide) rest),
    split_parenthesis (Or.inr rfl)]

/-- A token that is followed by a border is split off. -/
theorem IsAtom.split_append {token : List Char} (h : IsAtom token) {rest : List Char}
    (hr : Apart rest) : Token.split (token ++ rest) = token :: Token.split rest := by
  rw [Token.split_append h.closed hr, h.split]
  rfl

/-- A run that is not closed is the last token, if anything is left of it. -/
theorem split_open {quote : Char} (hquote : isQuote quote = true) {run : List Char}
    (hrun : ∀ c ∈ run, (c != quote) = true) :
    split (quote :: run) =
      if run.filter (!isLineEnd ·) = [] then [] else [run.filter (!isLineEnd ·)] := by
  have hquoted : quoted quote run = run.filter (!isLineEnd ·) := by
    rw [quoted, List.takeWhile_eq_self_iff.mpr hrun]
  have hafter : afterQuoted quote run = [] := by
    rw [afterQuoted, List.dropWhile_eq_nil_iff.mpr hrun, List.drop_nil]
  rw [split_quote hquote, hquoted, hafter, split_nil, List.append_nil]

/-- A comma behind a text that ends inside a run is a part of the run. -/
theorem split_comma_ne {cs : List Char} (h : ¬ Closed cs) : split (cs ++ [',']) ≠ split cs := by
  obtain ⟨quote, hopen⟩ := Option.ne_none_iff_exists'.mp h
  obtain ⟨before, run, rfl, hbefore, hquote, hrun⟩ := exists_of_quoteAfter_none hopen
  have hborder : isBorder quote = true := (isBorder_iff quote).mpr (.inr (.inl hquote))
  have hcomma : ∀ c ∈ run ++ [','], (c != quote) = true := by
    refine List.forall_mem_append.mpr ⟨hrun, List.forall_mem_singleton.mpr ?_⟩
    rw [bne_iff_ne]
    rintro rfl
    exact absurd hquote (by decide)
  have hkept : (run ++ [',']).filter (!isLineEnd ·) = run.filter (!isLineEnd ·) ++ [','] := by
    rw [List.filter_append, List.filter_cons_of_pos (by decide), List.filter_nil]
  rw [List.append_assoc, List.cons_append, split_append hbefore (apart_cons hborder _),
    split_append hbefore (apart_cons hborder _), split_open hquote hcomma, split_open hquote hrun,
    hkept, if_neg (by simp)]
  intro hsame
  have hlast := List.append_cancel_left hsame
  split at hlast <;> simp at hlast

/-- A text may be cut at whatever separator stands behind it if and only if it does not end inside a
quoted run. The tokens of the text and of what follows the separator are then all tokens. -/
theorem closed_iff_tokenize_append (a : String) :
    Closed a.toList ↔ ∀ c, isSeparator c = true → ∀ b : String,
      tokenize (a ++ String.singleton c ++ b) = tokenize a ++ tokenize b := by
  have hcut : ∀ (c : Char) (b : String), tokenize (a ++ String.singleton c ++ b) =
      (split (a.toList ++ c :: b.toList)).map String.ofList := by
    intro c b
    simp [tokenize]
  constructor
  · intro ha c hc b
    rw [hcut, split_append_separator ha hc, List.map_append]
    rfl
  · intro h
    by_contra ha
    have hcomma := h ',' (by decide) ""
    rw [hcut] at hcomma
    have hsame : (split (a.toList ++ [','])).map String.ofList =
        (split a.toList).map String.ofList := by simpa [tokenize] using hcomma
    exact split_comma_ne ha ((List.map_inj_right fun _ _ => String.ofList_inj.mp).mp hsame)

/-- Inside a run a quote of the other kind opens none, and quotes with nothing between them are no
token. -/
example : tokenize "a'b\"c'\"\" \"d,'e" = ["a", "b\"c", "d,'e"] := by decide +kernel

end Criteria.Token
