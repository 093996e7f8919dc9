import Criteria.Evaluation
import Criteria.Text.Quoted

/-!
Conditions that are read once and evaluated many times. A condition keeps the names of its
predicates, so each evaluation asks what is registered under them at that time.
-/
namespace Criteria

structure Condition where
  source : String
  expressions : List Expr

namespace Registry

variable {ω : Type}

/-- Reads a condition for later use. -/
def compile (r : Registry ω) (s : String) : Condition := ⟨s, parse r.vocabulary s⟩

/-- What there is to report about the reading of a condition. -/
def compileEvents (r : Registry ω) (s : String) : List Event :=
  parseEvents r.vocabulary (tokenize s) ++
    if (r.compile s).expressions.isEmpty then [.emptyCondition s] else []

/-- What there is to report about a check: first the reading, then the evaluation. -/
def checkEvents (r : Registry ω) (world : ω) (s : String) : List Event :=
  parseEvents r.vocabulary (tokenize s) ++ (r.evaluate world (parse r.vocabulary s)).events

/-- A description by the names of the predicates and by whether there is a bridge. -/
def describe (r : Registry ω) : String :=
  "ConditionEngine \x7b registry: PredicateRegistry \x7b predicates: [" ++
    ", ".intercalate (r.names.map Text.quoted) ++ "], external: " ++
    (if r.bridge?.isSome then "true" else "false") ++ " \x7d \x7d"

end Registry

namespace Condition

variable {ω : Type}

def evaluate (c : Condition) (r : Registry ω) (world : ω) : Verdict :=
  r.evaluate world c.expressions

end Condition

end Criteria
