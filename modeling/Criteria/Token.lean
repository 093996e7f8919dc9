import Criteria.Symbol

/-!
The tokens of a condition. White space and commas part tokens. Operator characters are taken
together as long as they begin a symbol, and a run between quotes is one token without its quotes.
Every text has tokens: a character that is nothing else is part of a word.
-/
namespace Criteria.Token

open Text (isBlank)
open Criteria.Symbol (isOperatorChar isBeginning)

def isSeparator (c : Char) : Bool := isBlank c || c = ','

def isQuote (c : Char) : Bool := c = '"' || c = '\x27'

/-- Line ends are left out of quoted runs. -/
def isLineEnd (c : Char) : Bool :=
  c = '\r' || c = '\n' || c = '\u2028' || c = '\u2029'

/-- The characters of a word. -/
def isPlain (c : Char) : Bool := !isSeparator c && !isQuote c && !isOperatorChar c

/-- The text of a run that `quote` has opened: up to the next `quote` or to the end. -/
def quoted (quote : Char) (cs : List Char) : List Char :=
  (cs.takeWhile (· != quote)).filter (!isLineEnd ·)

/-- What follows the quote that closes a run. -/
def afterQuoted (quote : Char) (cs : List Char) : List Char := (cs.dropWhile (· != quote)).drop 1

/-- Takes operator characters for as long as the run begins a symbol. -/
def extend (run : List Char) : List Char → List Char × List Char
  | [] => (run, [])
  | c :: rest =>
    if isOperatorChar c && isBeginning (run ++ [c]) then extend (run ++ [c]) rest
    else (run, c :: rest)

@[simp] theorem extend_nil (run : List Char) : extend run [] = (run, []) := rfl

theorem length_afterQuoted_le (quote : Char) (cs : List Char) :
    (afterQuoted quote cs).length ≤ cs.length := by
  have h := (List.dropWhile_sublist (l := cs) (· != quote)).length_le
  simp only [afterQuoted, List.length_drop]
  omega

theorem length_extend_le (run cs : List Char) : (extend run cs).2.length ≤ cs.length := by
  induction cs generalizing run with
  | nil => exact Nat.le_refl _
  | cons c rest ih =>
    unfold extend
    split
    · exact Nat.le_succ_of_le (ih _)
    · exact Nat.le_refl _

/-- The first token and what follows it. Nothing is left of quotes with nothing between them. -/
def next? : List Char → Option (List Char × List Char)
  | [] => none
  | c :: rest =>
    if isQuote c then
      if (quoted c rest).isEmpty then next? (afterQuoted c rest)
      else some (quoted c rest, afterQuoted c rest)
    else if isSeparator c then next? rest
    else if isOperatorChar c then some (extend [c] rest)
    else some (c :: rest.takeWhile isPlain, rest.dropWhile isPlain)
termination_by cs => cs.length
decreasing_by
  · exact Nat.lt_succ_of_le (length_afterQuoted_le c rest)
  · exact Nat.lt_succ_self _

@[simp] theorem next?_nil : next? [] = none := by rw [next?]

theorem length_lt_of_next? {cs token rest : List Char} (h : next? cs = some (token, rest)) :
    rest.length < cs.length := by
  fun_induction next? cs with
  | case1 => simp at h
  | case2 c tail _ _ ih =>
    exact Nat.lt_succ_of_le (Nat.le_trans (Nat.le_of_lt (ih h)) (length_afterQuoted_le c tail))
  | case3 c tail =>
    cases h
    exact Nat.lt_succ_of_le (length_afterQuoted_le c tail)
  | case4 c tail _ _ ih => exact Nat.lt_succ_of_lt (ih h)
  | case5 c tail =>
    have hrest : (extend [c] tail).2 = rest := congrArg Prod.snd (Option.some.inj h)
    exact Nat.lt_succ_of_le (hrest ▸ length_extend_le [c] tail)
  | case6 c tail =>
    cases h
    exact Nat.lt_succ_of_le (List.dropWhile_sublist (l := tail) isPlain).length_le

/-- All tokens of a text, in order. -/
def split (cs : List Char) : List (List Char) :=
  match h : next? cs with
  | none => []
  | some (token, rest) =>
    have := length_lt_of_next? h
    token :: split rest
termination_by cs.length

theorem split_of_none {cs : List Char} (h : next? cs = none) : split cs = [] := by
  rw [split]; split <;> simp_all

theorem split_of_some {cs token rest : List Char} (h : next? cs = some (token, rest)) :
    split cs = token :: split rest := by
  rw [split]; split <;> simp_all

@[simp] theorem split_nil : split [] = [] := split_of_none next?_nil

end Criteria.Token

namespace Criteria

/-- The tokens of a condition text. -/
def tokenize (s : String) : List String := (Token.split s.toList).map String.ofList

end Criteria
