import Criteria.Clause
import Criteria.Proofs.Token.Splitting

/-!
# Texts and the tokens that they spell

A text that is put together from words, parentheses and separators is split into what it is put
together from. In particular the tokens of a text without quotes, with a space between them, are a
text with the same tokens: none of them is split further, and none goes on behind a space.
-/
namespace Criteria

/-- A text without quotes, and its tokens. -/
structure Spells (s : String) (ts : List String) : Prop where
  noQuote : ∀ c ∈ s.toList, Token.isQuote c = false
  tokens : tokenize s = ts

namespace Spells

variable {s s' : String} {ts ts' : List String}

theorem empty : Spells "" [] := ⟨by simp, by simp [tokenize]⟩

theorem word {w : String} (h : Token.IsAtom w.toList) : Spells w [w] :=
  ⟨h.noQuote, by simp [tokenize, h.split]⟩

theorem append (h : Spells s ts) (h' : Spells s' ts') (hb : Token.Apart s'.toList) :
    Spells (s ++ s') (ts ++ ts') := by
  have hclosed : Token.Closed s.toList := Token.closed_of_no_quotes h.noQuote
  constructor
  · intro c hc
    rw [String.toList_append] at hc
    rcases List.mem_append.mp hc with hc | hc
    · exact h.noQuote c hc
    · exact h'.noQuote c hc
  · rw [tokenize, String.toList_append, Token.split_append hclosed hb, List.map_append, ← h.tokens,
      ← h'.tokens]
    rfl

/-- Separators in front of a text are no part of any token. -/
theorem separated {between : String} (h : Spells s ts)
    (hb : ∀ c ∈ between.toList, Token.isSeparator c = true) : Spells (between ++ s) ts := by
  have hsplit : ∀ cs : List Char, (∀ c ∈ cs, Token.isSeparator c = true) →
      Token.split (cs ++ s.toList) = Token.split s.toList := by
    intro cs hcs
    induction cs with
    | nil => rfl
    | cons c cs ih =>
      obtain ⟨hc, hcs⟩ := List.forall_mem_cons.mp hcs
      rw [List.cons_append, Token.split_separator hc, ih hcs]
  constructor
  · intro c hc
    rw [String.toList_append] at hc
    rcases List.mem_append.mp hc with hc | hc
    · exact Token.isQuote_of_isSeparator (hb c hc)
    · exact h.noQuote c hc
  · rw [tokenize, String.toList_append, hsplit _ hb, ← h.tokens]
    rfl

theorem space (h : Spells s ts) : Spells (" " ++ s) ts :=
  h.separated (List.all_iff_forall_prop.mp (by decide))

/-- A parenthesis in front of a text is a token of its own. -/
theorem opened (h : Spells s ts) : Spells ("(" ++ s) ("(" :: ts) := by
  constructor
  · intro c hc
    rw [String.toList_append] at hc
    rcases List.mem_append.mp hc with hc | hc
    · obtain rfl : c = '(' := by simpa using hc
      decide
    · exact h.noQuote c hc
  · have hsplit : Token.split ('(' :: s.toList) = ['('] :: Token.split s.toList :=
      Token.split_parenthesis (Or.inl rfl) s.toList
    rw [← h.tokens]
    simpa [tokenize] using congrArg (List.map String.ofList) hsplit

theorem closing : Spells ")" [")"] := by
  have hsplit : Token.split [')'] = [')'] :: Token.split [] :=
    Token.split_parenthesis (Or.inr rfl) []
  exact word ⟨by simpa using hsplit, List.all_iff_forall_prop.mp (by decide)⟩

/-- A text in parentheses. -/
theorem parenthesized (h : Spells s ts) : Spells ("(" ++ s ++ ")") ("(" :: (ts ++ [")"])) := by
  rw [String.append_assoc]
  exact (h.append closing (Token.apart_cons (by decide) _)).opened

/-- Tokens that are joined by one separator or more. -/
theorem joined {between : String} (hne : between ≠ "")
    (hb : ∀ c ∈ between.toList, Token.isSeparator c = true) {ws : List String}
    (hws : ∀ w ∈ ws, Token.IsAtom w.toList) : Spells (between.intercalate ws) ws := by
  induction ws with
  | nil => exact empty
  | cons w ws ih =>
    obtain ⟨hw, hws⟩ := List.forall_mem_cons.mp hws
    -- Only the last token has no separator behind it.
    cases ws with
    | nil => simpa using word hw
    | cons w' ws =>
      rw [String.intercalate_cons_cons, String.append_assoc]
      obtain ⟨c, rest, hbetween⟩ : ∃ c rest, between.toList = c :: rest :=
        List.exists_cons_of_ne_nil (by simpa using hne)
      have hc : Token.isSeparator c = true := hb c (by simp [hbetween])
      refine (word hw).append ((ih hws).separated hb) ?_
      rw [String.toList_append, hbetween]
      exact Token.apart_cons ((Token.isBorder_iff c).mpr (.inl hc)) _

/-- Words that are listed. -/
theorem listed {ws : List String} (hws : ∀ w ∈ ws, Token.IsAtom w.toList) :
    Spells (", ".intercalate ws) ws :=
  joined (by decide) (List.all_iff_forall_prop.mp (by decide)) hws

end Spells

/-- The comparators and joins are written as tokens. -/
theorem isAtom_comparator (c : Comparator) : Token.IsAtom c.text.toList :=
  ⟨by cases c <;> decide +kernel, List.all_iff_forall_prop.mp (by cases c <;> decide)⟩

theorem isAtom_join (j : Join) : Token.IsAtom j.text.toList :=
  ⟨by cases j <;> decide +kernel, List.all_iff_forall_prop.mp (by cases j <;> decide)⟩

/-- The tokens of a text without quotes, whole symbols, parts of symbols or words, are tokens by
themselves. -/
theorem isAtom_of_mem_tokenize {s : String} (h : ∀ c ∈ s.toList, Token.isQuote c = false) :
    ∀ token ∈ tokenize s, Token.IsAtom token.toList := by
  intro token htoken
  obtain ⟨cs, hcs, rfl⟩ := List.mem_map.mp htoken
  rw [String.toList_ofList]
  exact Token.isAtom_of_mem_split h cs hcs

/-- Each token of a text without quotes is its own only token, and all tokens with single spaces
between them are split into the same tokens again. -/
theorem tokenize_respaced {s : String} (h : ∀ c ∈ s.toList, Token.isQuote c = false) :
    (∀ token ∈ tokenize s, tokenize token = [token]) ∧
      tokenize (" ".intercalate (tokenize s)) = tokenize s := by
  have hatoms := isAtom_of_mem_tokenize h
  have hspace : ∀ c ∈ " ".toList, Token.isSeparator c = true :=
    List.all_iff_forall_prop.mp (by decide)
  exact ⟨fun token htoken => (Spells.word (hatoms token htoken)).tokens,
    (Spells.joined (by decide) hspace hatoms).tokens⟩

/-- Symbols and parts of symbols that touch, a comma and other white space than spaces. -/
theorem tokenize_respaced_fragments :
    let s := "a>>=!b,\t\n(c&|=d"
    (∀ c ∈ s.toList, Token.isQuote c = false) ∧
      tokenize "a > >= ! b ( c & | = d" =
        ["a", ">", ">=", "!", "b", "(", "c", "&", "|", "=", "d"] := by
  intro s
  have hquotes : ∀ c ∈ s.toList, Token.isQuote c = false :=
    List.all_iff_forall_prop.mp (by decide +kernel)
  have htokens : tokenize s = ["a", ">", ">=", "!", "b", "(", "c", "&", "|", "=", "d"] := by
    decide +kernel
  have hrespaced := (tokenize_respaced hquotes).2
  rw [htokens] at hrespaced
  exact ⟨hquotes, hrespaced⟩

/-- A quoted text falls apart. -/
example : tokenize (" ".intercalate (tokenize "'a b' c")) = ["a", "b", "c"] := by decide +kernel

end Criteria
