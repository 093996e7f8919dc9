import Criteria.Text.Lowercase

/-!
The operator symbols of conditions: joins, negation, comparators and parentheses. A symbol may be
written with operator characters or, for the first three, as a word in any case.
-/
namespace Criteria

/-- The ways to compare two values. -/
inductive Comparator where
  | equal
  | notEqual
  | less
  | lessEqual
  | greater
  | greaterEqual
deriving DecidableEq, Repr

namespace Comparator

def text : Comparator → String
  | equal => "=="
  | notEqual => "!="
  | less => "<"
  | lessEqual => "<="
  | greater => ">"
  | greaterEqual => ">="

/-- Whether the comparison holds of values in this order. -/
def holds : Comparator → Ordering → Bool
  | equal, o => o == .eq
  | notEqual, o => o != .eq
  | less, o => o == .lt
  | lessEqual, o => o != .gt
  | greater, o => o == .gt
  | greaterEqual, o => o != .lt

def all : List Comparator := [equal, notEqual, less, lessEqual, greater, greaterEqual]

theorem mem_all (c : Comparator) : c ∈ all := by cases c <;> decide

end Comparator

/-- A clause need not compare, and then has no comparator. -/
abbrev Operator := Option Comparator

/-- The text of an operator, with a question mark where there is no comparator. -/
def Operator.text (o : Operator) : String := (o.map Comparator.text).getD "?"

inductive Symbol where
  | and
  | or
  | not
  | compare (c : Comparator)
  | openParen
  | closeParen
deriving DecidableEq, Repr

namespace Symbol

/-- The symbol as it is named in messages. -/
def text : Symbol → String
  | and => "and"
  | or => "or"
  | not => "not"
  | compare c => c.text
  | openParen => "("
  | closeParen => ")"

/-- The symbols that are written with operator characters, and what they stand for. -/
def written : List (String × Symbol) :=
  [("&&", and), ("||", or)] ++ Comparator.all.map (fun c => (c.text, compare c)) ++
    [("(", openParen), (")", closeParen)]

/-- The symbols that are written as words. -/
def words : List (String × Symbol) := [("and", and), ("or", or), ("not", not)]

/-- The symbol that a token is. -/
def ofToken? (token : String) : Option Symbol :=
  ((written ++ words).find? fun entry => Text.eqIgnoringAsciiCase entry.1 token).map Prod.snd

/-- The comparator that a symbol is. -/
def comparator? : Symbol → Operator
  | compare c => some c
  | _ => none

/-- Whether a character occurs in a symbol written with operator characters. -/
def isOperatorChar (c : Char) : Bool := written.any fun entry => entry.1.toList.contains c

/-- Whether some symbol written with operator characters begins with these characters. -/
def isBeginning (run : List Char) : Bool := written.any fun entry => run.isPrefixOf entry.1.toList

@[simp] theorem isBeginning_nil : isBeginning [] = true := by decide

end Symbol

end Criteria
