import Criteria.Clause
import Criteria.Json

/-!
Expressions as JSON. A group is written with what is inside it; a clause with its names, with its
arguments if it has some, and with its comparison and the type of the literal if it has a
comparator.
-/
namespace Criteria.Record

variable [Number.Decimals]

/-- The fields that every expression has. -/
def common (c : Clause) : List (String × Json) :=
  [("kind", .text c.kind.text), ("join", .text c.join.text), ("negated", .bool c.negated)]

/-- The fields of a clause that is no group. -/
def own (c : Clause) : List (String × Json) :=
  [("keyword", .text c.keyword), ("method", .text c.method)] ++
    (if c.params.isEmpty then [] else [("params", .ofStrings c.params)]) ++
    match c.operator with
    | none => []
    | some op => [("operator", .text op.text), ("value", .text c.value),
        ("value_type", .text c.typedValue.typeName)]

mutual

/-- The record of an expression. -/
def ofExpr : Expr → Json
  | .node c es =>
    .ofFields (common c ++ if c.isGroup then [("children", .array (ofList es))] else own c)

def ofList : List Expr → List Json
  | [] => []
  | e :: es => ofExpr e :: ofList es

end

/-- The record of a list of expressions. -/
def tree (es : List Expr) : Json := .array (ofList es)

/-- The field of a number, and the numbers that are left. -/
def takeNumber : List Nat → List (String × Json) × List Nat
  | [] => ([], [])
  | n :: rest => ([("id", .integer n)], rest)

mutual

/-- The record of an expression that takes its numbers, and those of what is inside it, from a
list. -/
def numberedExpr (numbers : List Nat) : Expr → Json × List Nat
  | .node c es =>
    let (number, rest) := takeNumber numbers
    if c.isGroup then
      let (items, rest) := numberedList rest es
      (.ofFields (number ++ common c ++ [("children", .array items)]), rest)
    else (.ofFields (number ++ common c ++ own c), rest)

def numberedList (numbers : List Nat) : List Expr → List Json × List Nat
  | [] => ([], numbers)
  | e :: es =>
    let (item, rest) := numberedExpr numbers e
    let (items, rest) := numberedList rest es
    (item :: items, rest)

end

/-- The record of a list of expressions with their numbers. -/
def numberedTree (numbers : List Nat) (es : List Expr) : Json :=
  .array (numberedList numbers es).1

end Criteria.Record
