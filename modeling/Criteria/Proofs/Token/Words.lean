import Criteria.Proofs.Token.Spelling

/-!
# Words and quoted runs

A word of plain characters is a token as it stands. What stands between quotes is one token as well,
whatever it is, but quotes with nothing between them are none.
-/
namespace Criteria

namespace Token

theorem isAtom_of_isPlain {cs : List Char} (hne : cs ≠ []) (h : ∀ c ∈ cs, isPlain c = true) :
    IsAtom cs := by
  obtain ⟨c, rest, rfl⟩ := List.exists_cons_of_ne_nil hne
  obtain ⟨hc, hrest⟩ := List.forall_mem_cons.mp h
  have hnext : next? (c :: rest) = some (c :: rest, []) := by
    rw [next?_plain hc, List.takeWhile_eq_self_iff.mpr hrest, List.dropWhile_eq_nil_iff.mpr hrest]
  exact ⟨by rw [split_of_some hnext, split_nil], fun x hx => isQuote_of_isPlain (h x hx)⟩

/-- A run that is closed at the end of a text is the last token, if there is anything in it. -/
theorem split_quoted {quote : Char} (hquote : isQuote quote = true) {run : List Char}
    (hrun : ∀ c ∈ run, isQuote c = false ∧ isLineEnd c = false) :
    split (quote :: (run ++ [quote])) = if run = [] then [] else [run] := by
  have hother : ∀ c ∈ run, (c != quote) = true := by
    intro c hc
    rw [bne_iff_ne]
    rintro rfl
    simp [(hrun c hc).1] at hquote
  have hkept : run.filter (!isLineEnd ·) = run :=
    List.filter_eq_self.mpr fun c hc => by rw [(hrun c hc).2, Bool.not_false]
  rw [split_quote hquote, quoted_append hother, afterQuoted_append hother, hkept, split_nil,
    List.append_nil]

end Token

/-- A word that is a token as it stands, and no symbol: neither separators nor quotes nor operator
characters are in it. -/
structure PlainWord (w : String) : Prop where
  ne_empty : w ≠ ""
  plain : ∀ c ∈ w.toList, Token.isPlain c = true
  noSymbol : Symbol.ofToken? w = none

theorem plainWord_iff {w : String} : PlainWord w ↔
    w ≠ "" ∧ w.toList.all Token.isPlain = true ∧ Symbol.ofToken? w = none := by
  rw [List.all_eq_true]
  exact ⟨fun h => ⟨h.ne_empty, h.plain, h.noSymbol⟩, fun h => ⟨h.1, h.2.1, h.2.2⟩⟩

instance (w : String) : Decidable (PlainWord w) := decidable_of_iff _ plainWord_iff.symm

theorem PlainWord.isAtom {w : String} (h : PlainWord w) : Token.IsAtom w.toList :=
  Token.isAtom_of_isPlain (by simpa using h.ne_empty) h.plain

/-- What may stand between quotes and is kept as it is. -/
def Quotable (s : String) : Prop :=
  ∀ c ∈ s.toList, Token.isQuote c = false ∧ Token.isLineEnd c = false

theorem quotable_iff {s : String} :
    Quotable s ↔ s.toList.all (fun c => !Token.isQuote c && !Token.isLineEnd c) = true := by
  simp [Quotable]

instance (s : String) : Decidable (Quotable s) := decidable_of_iff _ quotable_iff.symm

/-- The tokens of a quoted text, which has one token or none. -/
theorem tokenize_quoted {s : String} (h : Quotable s) :
    tokenize ("'" ++ s ++ "'") = if s = "" then [] else [s] := by
  have hquote : Token.isQuote '\x27' = true := by decide
  have hsplit : Token.split ("'" ++ s ++ "'").toList = if s = "" then [] else [s.toList] := by
    simpa using Token.split_quoted hquote h
  rw [tokenize, hsplit]
  split <;> simp

namespace Spells

variable {s s' : String} {ts ts' : List String}

theorem plain {w : String} (h : PlainWord w) : Spells w [w] := .word h.isAtom

/-- Words with a space between them. -/
theorem spaced (h : Spells s ts) (h' : Spells s' ts') : Spells (s ++ " " ++ s') (ts ++ ts') := by
  rw [String.append_assoc]
  refine h.append h'.space ?_
  rw [String.toList_append]
  exact Token.apart_cons (by decide) _

/-- A quoted text behind other tokens. -/
theorem tokenize_quoted (h : Spells s ts) {q : String} (hq : Quotable q) :
    tokenize (s ++ " '" ++ q ++ "'") = ts ++ if q = "" then [] else [q] := by
  have hclosed : Token.Closed s.toList := Token.closed_of_no_quotes h.noQuote
  have hsplit : Token.split (s ++ " '" ++ q ++ "'").toList =
      Token.split s.toList ++ Token.split ("'" ++ q ++ "'").toList := by
    have happend :=
      Token.split_append_separator hclosed (c := ' ') (by decide) ("'" ++ q ++ "'").toList
    simpa using happend
  rw [tokenize, hsplit, List.map_append, ← Criteria.tokenize_quoted hq, ← h.tokens]
  rfl

end Spells

end Criteria
