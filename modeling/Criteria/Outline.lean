import Criteria.Clause

/-!
Outlines of expressions: one line for each, further in at each level, with its join in front.
-/
namespace Criteria.Outline

/-- The line of an expression without what is inside it. -/
def line (indent depth : Nat) (c : Clause) : String :=
  String.ofList (List.replicate (depth * indent) ' ') ++ Text.padRight 3 c.join.text ++ " " ++
    c.negationText ++ if c.isGroup then "(group)" else c.body

mutual

/-- The lines of an expression. -/
def lines (indent depth : Nat) : Expr → List String
  | .node c es =>
    line indent depth c :: if c.isGroup then listLines indent (depth + 1) es else []

def listLines (indent depth : Nat) : List Expr → List String
  | [] => []
  | e :: es => lines indent depth e ++ listLines indent depth es

end

/-- Each line with its end. -/
def joinLines (ls : List String) : String := String.join (ls.map (· ++ "\n"))

/-- The outline with the given number of spaces for each level. -/
def print (indent : Nat) (es : List Expr) : String := joinLines (listLines indent 0 es)

/-- The outline with two spaces for each level. -/
def text (es : List Expr) : String := print 2 es

end Criteria.Outline
