import Criteria.Facts.Predicates
import Criteria.Json.Printer
import Criteria.Json.Reader
import Criteria.Number.Limited
import Criteria.Pattern.Matching
import Criteria.Pattern.Reader

/-!
What the program brings along besides its decimals: its JSON texts and its patterns.
-/
namespace Criteria

instance Json.texts : JsonFormat where
  read s := match Json.read? s with
    | some j => .ok j
    | none => .error "not a JSON text"
  pretty := Json.pretty

instance Pattern.engine : PatternEngine where
  Compiled := Pattern
  compile s := (Pattern.read s).mapError Pattern.Fault.message
  isMatch := Pattern.isMatch

end Criteria
