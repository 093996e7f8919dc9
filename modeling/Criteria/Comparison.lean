import Criteria.Predicate

/-!
Comparison of what a predicate observes with the literal of its clause. Truth values and texts are
equal or not, and have no order; a comparison that asks for their order is false and is reported.
-/
namespace Criteria.Comparison

open Number (Decimals Double)

/-- Whether an operator holds of values in this order. No operator never holds. -/
def holds (op : Operator) (o : Ordering) : Bool := op.any (·.holds o)

def ofInt (op : Operator) (actual expected : Int64) : Bool :=
  holds op (compare actual.toInt expected.toInt)

/-- Floating-point numbers are compared as decimals where both have one. -/
def ofDouble [Decimals] (op : Operator) (actual expected : Double) : Bool :=
  match Decimals.ofDouble? actual, Decimals.ofDouble? expected with
  | some a, some b => holds op (Decimals.order a b)
  | _, _ => ((actual.order? expected).map (holds op)).getD false

/-- Equality or difference, for values without an order. -/
def unordered (event : Operator → Event) (op : Operator) (same : Bool) : Report :=
  match op with
  | some .equal => .answer same
  | some .notEqual => .answer !same
  | _ => { outcome := .answer false, events := [event op] }

/-- Texts are the same if their small-letter forms are. -/
def ofText (op : Operator) (actual expected : String) : Report :=
  unordered .unorderedText op (Text.lowercase actual == Text.lowercase expected)

def ofBool (op : Operator) (actual expected : Bool) : Report :=
  unordered .unorderedBool op (actual == expected)

/-- Compares truth values if one side is one, then integers, then numbers, and otherwise texts. -/
def values [Decimals] (c : Clause) (observed expected : Value) : Report :=
  match observed, expected with
  | .bool _, _ | _, .bool _ =>
    match observed.asBool, expected.asBool with
    | some a, some b => ofBool c.operator a b
    | _, _ => .error (.incomparable c.method observed.asText c.value)
  | .int a, .int b => .answer (ofInt c.operator a b)
  | _, _ =>
    match observed.asDecimal, expected.asDecimal with
    | some a, some b => .answer (holds c.operator (Decimals.order a b))
    | _, _ => ofText c.operator observed.asText expected.asText

/-- Compares what was observed with the literal of the clause. -/
def ofClause [Decimals] (c : Clause) (observed : Value) : Report :=
  match c.operator with
  | none => .failed c "clause has no comparison operator"
  | some _ => values c observed c.typedValue

/-- Compares two values of one sort, which is how the comparisons differ. -/
def sameSort? [Decimals] (op : Operator) : Value → Value → Option Report
  | .int a, .int b => some (.answer (ofInt op a b))
  | .float a, .float b => some (.answer (ofDouble op a b))
  | .text a, .text b => some (ofText op a b)
  | .bool a, .bool b => some (ofBool op a b)
  | _, _ => none

end Criteria.Comparison
