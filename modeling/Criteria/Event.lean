import Criteria.Piece
import Criteria.PredicateError

/-!
What is reported along the way, by cause. An event has a level, a message and named texts.
-/
namespace Criteria

inductive Level where
  | debug
  | warn
  | error
deriving DecidableEq, Repr

namespace Level

def text : Level → String
  | debug => "DEBUG"
  | warn => "WARN"
  | error => "ERROR"

end Level

inductive Event where
  | strayComparator (c : Comparator) (position : Nat)
  | emptyGroup
  | unrecognized (token : String) (position : Nat)
  | malformed (token : String) (kind : ClauseKind) (flaw : Flaw)
  | unbalanced (position : Nat)
  | unclosed (groups : Nat)
  | replaced (predicate : String)
  | unorderedText (operator : Operator)
  | unorderedBool (operator : Operator)
  | predicateFailed (clause : Clause) (error : PredicateError)
  | predicatePanicked (clause : Clause) (payload : String)
  | emptyCondition (source : String)
  | factsLoaded (count : Nat)
  | refusedEmpty (item : String)
  | refusedDuplicate (item : String)
  | queued (item : String) (steps : Nat)
  | activated (item : String)
  | shelved (parent child : String) (depth : Nat)
  | orphaned (child parent : String)
  | resumed (item : String) (node : Option Nat)
  | completed (item : String) (steps : Nat)
  | notRequeued (item : String)
  | reset (waiting onShelf : Nat)
  | softReset (kept : Nat)
deriving DecidableEq

namespace Event

def level : Event → Level
  | unbalanced _ => .warn
  | unclosed _ => .warn
  | replaced _ => .warn
  | orphaned _ _ => .warn
  | predicateFailed _ _ => .error
  | predicatePanicked _ _ => .error
  | _ => .debug

def message : Event → String
  | strayComparator _ _ => "operator without a clause, skipping"
  | emptyGroup => "dropping empty group"
  | unrecognized _ _ => "Unrecognized token"
  | malformed _ _ _ => "dropping malformed clause"
  | unbalanced _ => "unbalanced closing parenthesis"
  | unclosed _ => "condition ended with unclosed groups, dropping them"
  | replaced _ => "replacing previously registered predicate"
  | unorderedText _ => "strings only support == and !="
  | unorderedBool _ => "booleans only support == and !="
  | predicateFailed _ _ => "predicate failed"
  | predicatePanicked _ _ => "predicate panicked"
  | emptyCondition _ => "condition compiled to an empty expression list"
  | factsLoaded _ => "loaded fact sheet"
  | refusedEmpty _ => "refusing queue item without steps"
  | refusedDuplicate _ => "refusing duplicate queue item"
  | queued _ _ => "queued item"
  | activated _ => "activated item"
  | shelved _ _ _ => "shelving item"
  | orphaned _ _ => "shelf top is not the parent of the completed item"
  | resumed _ _ => "resuming shelved item"
  | completed _ _ => "item complete"
  | notRequeued _ => "repeat not re-queued"
  | reset _ _ => "resetting queue"
  | softReset _ => "soft reset queue"

/-- The text of a place in an item, which may have none. -/
def placeText : Option Nat → String
  | none => "None"
  | some n => "Some(" ++ toString n ++ ")"

def fields : Event → List (String × String)
  | strayComparator c position => [("symbol", c.text), ("position", toString position)]
  | emptyGroup => []
  | unrecognized token position => [("token", token), ("position", toString position)]
  | malformed token kind flaw => [("token", token), ("kind", kind.text), ("reason", flaw.message)]
  | unbalanced position => [("position", toString position)]
  | unclosed groups => [("unclosed", toString groups)]
  | replaced predicate => [("predicate", predicate)]
  | unorderedText operator => [("operator", operator.text)]
  | unorderedBool operator => [("operator", operator.text)]
  | predicateFailed clause error => [("clause", clause.text), ("error", error.message)]
  | predicatePanicked clause payload => [("clause", clause.text), ("panic", payload)]
  | emptyCondition source => [("condition", source)]
  | factsLoaded count => [("facts", toString count)]
  | refusedEmpty item => [("item", item)]
  | refusedDuplicate item => [("item", item)]
  | queued item steps => [("item", item), ("steps", toString steps)]
  | activated item => [("item", item)]
  | shelved parent child depth =>
    [("parent", parent), ("child", child), ("depth", toString depth)]
  | orphaned child parent => [("child", child), ("parent", parent)]
  | resumed item node => [("item", item), ("node", placeText node)]
  | completed item steps => [("item", item), ("completed", toString steps)]
  | notRequeued item => [("item", item)]
  | reset waiting onShelf => [("pending", toString waiting), ("shelved", toString onShelf)]
  | softReset kept => [("kept", toString kept)]

end Event

end Criteria
