import Criteria.Command.Fault
import Criteria.Condition
import Criteria.Facts.Predicates
import Criteria.Numbering
import Criteria.Record

/-!
The check command: a condition is evaluated against a sheet of facts. Without facts the sheet is
empty.
-/
namespace Criteria.Command

/-- The result of a check. -/
structure Checked where
  satisfied : Bool
  expressions : List Expr
  /-- The numbers of the expressions. -/
  numbers : List Nat
  events : List Event

/-- Whether a text is nothing but white space. -/
def isBlankText (s : String) : Bool := s.toList.all Text.isBlank

/-- The fact sheet of a text, which may be missing or blank. -/
def factsOf [JsonFormat] (facts : Option String) : Except FactFault FactSheet :=
  match facts with
  | some s => if isBlankText s then .ok .empty else FactSheet.read s
  | none => .ok .empty

/-- Checks a condition on a fact sheet. -/
def checkOn [Number.Decimals] [PatternEngine] (sheet : FactSheet) (condition : String) : Checked :=
  let r := FactSheet.registry
  let expressions := parse r.vocabulary condition
  { satisfied := (r.evaluate sheet expressions).value
    expressions
    numbers := Numbering.ofTokens r.vocabulary (tokenize condition)
    events := .factsLoaded sheet.size :: r.checkEvents sheet condition }

/-- Checks a condition on facts given as a text. -/
def check [Number.Decimals] [PatternEngine] [JsonFormat] (condition : String)
    (facts : Option String) : Except Fault Checked :=
  if isBlankText condition then .error .emptyCondition
  else ((factsOf facts).mapError .facts).map fun sheet => checkOn sheet condition

end Criteria.Command
