import Criteria.Event

/-!
Predicates. A predicate sees the whole clause and the state of the world, and reports what came of
it together with the events on the way.
-/
namespace Criteria

/-- What comes of a call: an answer, an error or a failure of the predicate itself. -/
inductive Outcome where
  | answer (b : Bool)
  | error (e : PredicateError)
  | panic (payload : String)
deriving DecidableEq

namespace Outcome

/-- Only a positive answer makes a clause true. -/
def isTrue : Outcome → Bool
  | answer b => b
  | _ => false

/-- The event of a call that has no answer. -/
def event? (clause : Clause) : Outcome → Option Event
  | answer _ => none
  | error e => some (.predicateFailed clause e)
  | panic payload => some (.predicatePanicked clause payload)

def ofExcept : Except PredicateError Bool → Outcome
  | .ok b => answer b
  | .error e => error e

end Outcome

/-- An outcome with the events before it. -/
structure Report where
  outcome : Outcome
  events : List Event := []
deriving DecidableEq

namespace Report

def answer (b : Bool) : Report := { outcome := .answer b }
def error (e : PredicateError) : Report := { outcome := .error e }

/-- A predicate that could not go on reports its own failure. -/
def failed (c : Clause) (message : String) : Report := error (.failed c.method message)

end Report

/-- A predicate over worlds of type `ω`. -/
abbrev Predicate (ω : Type) := ω → Clause → Report

end Criteria
