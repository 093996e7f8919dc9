/-!
The errors that a predicate may report. An error makes its clause false.
-/
namespace Criteria

inductive PredicateError where
  | unknown (name : String)
  | missingParam (predicate : String) (index : Nat)
  | invalidParam (predicate value reason : String)
  | incomparable (predicate observed expected : String)
  | failed (predicate message : String)
deriving DecidableEq

namespace PredicateError

def message : PredicateError → String
  | unknown name => "unknown predicate '" ++ name ++ "'"
  | missingParam predicate index => predicate ++ ": missing parameter #" ++ toString index
  | invalidParam predicate value reason =>
    predicate ++ ": invalid parameter '" ++ value ++ "': " ++ reason
  | incomparable predicate observed expected =>
    predicate ++ ": cannot compare " ++ observed ++ " with '" ++ expected ++ "'"
  | failed predicate message => predicate ++ " failed: " ++ message

end PredicateError

end Criteria
