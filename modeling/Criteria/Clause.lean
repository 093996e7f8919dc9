import Criteria.Symbol
import Criteria.Value

/-!
Clauses and the trees they form. A clause names a predicate and may hold arguments and a comparison;
a group holds a list of further expressions. Each says how it is joined to the one before it, and
whether it is negated.
-/
namespace Criteria

/-- The shapes in which a predicate may be used. -/
inductive PredicateKind where
  /-- Written `Name OP value`. -/
  | quantity
  /-- Written `Name`. -/
  | flag
  /-- Written `Name(arguments) OP value`. -/
  | method
  /-- Written `Name(arguments)`. -/
  | query
  /-- Written `Name.Member`, with or without arguments and a comparison. -/
  | scope
deriving DecidableEq, Repr

namespace PredicateKind

def text : PredicateKind → String
  | quantity => "Variable"
  | flag => "BoolVariable"
  | method => "Method"
  | query => "BoolMethod"
  | scope => "Namespace"

def all : List PredicateKind := [quantity, flag, method, query, scope]

end PredicateKind

/-- What an expression is: a use of a predicate, a truth value or a group. -/
inductive ClauseKind where
  | unknown
  | call (kind : PredicateKind)
  | literal
  | group
deriving DecidableEq, Repr

namespace ClauseKind

def text : ClauseKind → String
  | unknown => "Unknown"
  | call kind => kind.text
  | literal => "Boolean"
  | group => "Group"

def all : List ClauseKind := [unknown, literal, group] ++ PredicateKind.all.map call

/-- Whether a comparison has to follow. -/
def needsComparison : ClauseKind → Bool
  | call .quantity => true
  | call .method => true
  | _ => false

/-- Whether arguments have to follow. -/
def needsArguments : ClauseKind → Bool
  | call .method => true
  | call .query => true
  | _ => false

end ClauseKind

/-- How an expression is joined to the one before it. The first of a list is joined by `and` as a
rule. A join by `not` stands for `and` with a negation. -/
inductive Join where
  | and
  | or
  | not
deriving DecidableEq, Repr

namespace Join

def text : Join → String
  | and => "and"
  | or => "or"
  | not => "not"

/-- The join that a symbol is. -/
def ofSymbol? : Symbol → Option Join
  | .and => some and
  | .or => some or
  | _ => none

end Join

/-- What is said at one place of a condition. -/
structure Clause where
  /-- The name as written. -/
  keyword : String
  kind : ClauseKind
  join : Join := .and
  negated : Bool := false
  /-- The registered name of the predicate. -/
  method : String := ""
  operator : Operator := none
  /-- The literal to compare with. -/
  value : String := ""
  params : List String := []
deriving DecidableEq

namespace Clause

/-- The clause of a group. -/
def group (join : Join) (negated : Bool) : Clause :=
  { keyword := "(", kind := .group, join, negated }

def isGroup (c : Clause) : Bool := c.kind == .group

def hasComparison (c : Clause) : Bool := c.operator.isSome && c.value != ""

/-- The literal as a value. -/
def typedValue [Number.Decimals] (c : Clause) : Value := .ofLiteral c.value

def param? (c : Clause) (index : Nat) : Option String := c.params[index]?

/-- What follows the first point of the keyword. -/
def member? (c : Clause) : Option String := (Text.splitAt? '.' c.keyword).map Prod.snd

/-- The arguments in parentheses, which are left out where there are none and none are needed. -/
def argumentText (c : Clause) : String :=
  if c.kind.needsArguments || !c.params.isEmpty then "(" ++ ", ".intercalate c.params ++ ")" else ""

/-- The comparison after the name. -/
def comparisonText (c : Clause) : String :=
  if c.kind != .literal && c.hasComparison then " " ++ c.operator.text ++ " " ++ c.value else ""

/-- The clause without its negation. -/
def body (c : Clause) : String := c.keyword ++ c.argumentText ++ c.comparisonText

/-- The negation in front of a clause. -/
def negationText (c : Clause) : String := if c.negated then "not " else ""

end Clause

/-- A clause with the expressions inside it. Only those inside a group count. -/
inductive Expr where
  | node (clause : Clause) (children : List Expr)

namespace Expr

def clause : Expr → Clause
  | node c _ => c

def children : Expr → List Expr
  | node _ es => es

@[simp] theorem clause_node (c : Clause) (es : List Expr) : (node c es).clause = c := rfl
@[simp] theorem children_node (c : Clause) (es : List Expr) : (node c es).children = es := rfl

/-- Induction on a list of expressions: over what is inside its first one, and what comes behind. -/
@[elab_as_elim]
theorem list_induction {P : List Expr → Prop} (nil : P [])
    (node : ∀ c inner rest, P inner → P rest → P (node c inner :: rest)) (es : List Expr) : P es :=
  match es with
  | [] => nil
  | .node c inner :: rest =>
    node c inner rest (list_induction nil node inner) (list_induction nil node rest)

/-- An expression that is no group. -/
def leaf (c : Clause) : Expr := node c []

def group (join : Join) (negated : Bool) (es : List Expr) : Expr := node (.group join negated) es

mutual

/-- An expression as it may be written in a condition. -/
def text : Expr → String
  | node c es => c.negationText ++ if c.isGroup then "(" ++ listText es ++ ")" else c.body

/-- Expressions with the joins between them. -/
def listText : List Expr → String
  | [] => ""
  | e :: es => text e ++ followingText es

/-- Expressions with a join in front of each. -/
def followingText : List Expr → String
  | [] => ""
  | e :: es => " " ++ e.clause.join.text ++ " " ++ text e ++ followingText es

end

mutual

/-- The clauses that are no groups, from left to right. -/
def leaves : Expr → List Clause
  | node c es => if c.isGroup then listLeaves es else [c]

def listLeaves : List Expr → List Clause
  | [] => []
  | e :: es => leaves e ++ listLeaves es

end

end Expr

namespace Clause

/-- The clause as it may be written in a condition. -/
def text (c : Clause) : String := (Expr.leaf c).text

end Clause

end Criteria
