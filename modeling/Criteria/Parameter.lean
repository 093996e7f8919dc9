import Criteria.Predicate
import Criteria.Text.Blank

/-!
Reading of parameters. A parameter is trimmed and then read by the reader of its sort, whose
complaint is passed on.
-/
namespace Criteria

/-- A reader of texts, which says what is wrong with those it refuses. -/
abbrev Reader (α : Type) := List Char → Except String α

namespace Parameter

open Number (IntegerRange Double)

def integer (range : IntegerRange) : Reader Int := fun cs =>
  (range.read cs).mapError Number.IntegerFault.message

def double : Reader Double := fun cs => (Double.read cs).mapError Number.DoubleFault.message

/-- Truth values are written in small letters. -/
def bool : Reader Bool := fun cs =>
  if cs = "true".toList then .ok true
  else if cs = "false".toList then .ok false
  else .error "provided string was not `true` or `false`"

def text : Reader String := fun cs => .ok (String.ofList cs)

/-- The parameter at an index, read by the given reader. -/
def read {α : Type} (reader : Reader α) (c : Clause) (index : Nat) : Except PredicateError α :=
  match c.param? index with
  | none => .error (.missingParam c.method index)
  | some raw => (reader (Text.trim raw.toList)).mapError (.invalidParam c.method raw)

end Parameter

end Criteria
