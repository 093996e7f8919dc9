import Criteria.Facts
import Criteria.Parameter
import Criteria.Registry

/-!
The predicates over a fact sheet: comparison of a fact, existence, truth, a pattern that a fact
matches, an item that it contains, and the scope in which facts are named directly. The patterns are
a parameter.
-/
namespace Criteria

/-- A kind of patterns that texts may match. -/
class PatternEngine where
  Compiled : Type
  /-- Reads a pattern, or says why a text is none. -/
  compile : String → Except String Compiled
  isMatch : Compiled → String → Bool

namespace FactSheet

variable [Number.Decimals]

/-- The scope in which facts are named directly. -/
def scopeName : String := "Facts"

/-- A fact that has to exist. -/
def required (f : FactSheet) (c : Clause) (name : String) : Except PredicateError Json :=
  match f.get? name with
  | some fact => .ok fact
  | none => .error (.failed c.method ("no fact named '" ++ name ++ "'"))

/-- A fact that has to be a scalar. -/
def requiredScalar (f : FactSheet) (c : Clause) (name : String) : Except PredicateError Value :=
  (f.required c name).bind fun fact =>
    match fact.scalar? with
    | some v => .ok v
    | none => .error (.failed c.method
        ("fact '" ++ name ++ "' is a " ++ fact.typeName ++ ", not a scalar"))

/-- A text parameter. -/
def textParam (c : Clause) (index : Nat) : Except PredicateError String :=
  Parameter.read Parameter.text c index

/-- Compares a fact with the literal of the clause. -/
def compareFact (f : FactSheet) (c : Clause) (name : String) : Report :=
  match f.requiredScalar c name with
  | .ok v => Comparison.ofClause c v
  | .error e => .error e

/-- Whether a fact exists and counts as true. -/
def isTrue (f : FactSheet) (name : String) : Bool := (f.get? name).any Json.isTruthy

/-- Written `Fact(name) OP value`. -/
def fact : Predicate FactSheet := fun f c =>
  match textParam c 0 with
  | .ok name => f.compareFact c name
  | .error e => .error e

/-- A predicate whose answer needs no more than a result. -/
def ofResult (result : FactSheet → Clause → Except PredicateError Bool) : Predicate FactSheet :=
  fun f c => { outcome := .ofExcept (result f c) }

/-- Written `HasFact(name)`. -/
def hasFact : Predicate FactSheet := ofResult fun f c => do
  let name ← textParam c 0
  return f.contains name

/-- Written `IsSet(name)`. -/
def isSet : Predicate FactSheet := ofResult fun f c => do
  let name ← textParam c 0
  return f.isTrue name

/-- Written `Matches(name, pattern)`. -/
def matchesPattern [PatternEngine] : Predicate FactSheet := ofResult fun f c => do
  let name ← textParam c 0
  let text ← textParam c 1
  let pattern ← (PatternEngine.compile text).mapError (.invalidParam c.method text)
  let value ← f.requiredScalar c name
  return PatternEngine.isMatch pattern value.asText

/-- Whether a collection holds an item: an array by value, an object by name, a text as a part of
it. -/
def holdsItem (c : Clause) (name item : String) : Json → Except PredicateError Bool
  | .array items => .ok (items.any (Json.isItem item))
  | .object fields => .ok (fields.any fun field => Text.eqIgnoringAsciiCase field.1 item)
  | .text s => .ok (Text.containsText (Text.lowercase item) (Text.lowercase s))
  | j => .error (.failed c.method
      ("fact '" ++ name ++ "' is a " ++ j.typeName ++ ", not a collection"))

/-- Written `Contains(name, item)`. -/
def containsItem : Predicate FactSheet := ofResult fun f c => do
  let name ← textParam c 0
  let item ← textParam c 1
  let fact ← f.required c name
  holdsItem c name item fact

/-- Written `Facts.name`, alone or with a comparison. -/
def member : Predicate FactSheet := fun f c =>
  match c.member?, c.operator with
  | none, _ => .failed c "missing fact name after the namespace"
  | some name, none => .answer (f.isTrue name)
  | some name, some _ => f.compareFact c name

/-- All predicates over a fact sheet, in the order in which they are registered. -/
def entries [PatternEngine] : List (Entry FactSheet) :=
  [⟨"Fact", .method, .facts, fact⟩, ⟨"HasFact", .query, .facts, hasFact⟩,
   ⟨"IsSet", .query, .facts, isSet⟩, ⟨"Matches", .query, .facts, matchesPattern⟩,
   ⟨"Contains", .query, .facts, containsItem⟩, ⟨scopeName, .scope, .facts, member⟩]

/-- The registry of the literals and the predicates over a fact sheet. -/
def registry [PatternEngine] : Registry FactSheet := (Registry.initial.registerAll entries).1

end FactSheet

end Criteria
