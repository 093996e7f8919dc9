import Criteria.Command.Fault

/-!
The documentation that the program shows: an overview, and a text for each topic.
-/
namespace Criteria.Command

inductive Topic where
  | grammar
  | operators
  | clauses
  | evaluation
  | facts
deriving DecidableEq, Repr

namespace Topic

def all : List Topic := [grammar, operators, clauses, evaluation, facts]

/-- The names of a topic. The first one is its own, the other one may be used for it. -/
def names : Topic → List String
  | grammar => ["syntax", "grammar"]
  | operators => ["operators", "ops"]
  | clauses => ["clauses", "clause"]
  | evaluation => ["evaluation", "eval"]
  | facts => ["facts", "fact"]

/-- The topic of a name. Dashes and the case of ASCII letters do not matter. -/
def ofName? (name : String) : Option Topic :=
  let plain := String.ofList (name.toList.filter (· != '-'))
  all.find? fun t => t.names.any (Text.eqIgnoringAsciiCase plain)

/-- The own name of a topic. -/
def name (t : Topic) : String := t.names.headD ""

def grammarText : String :=
"SYNTAX - Tokens and Grouping

SEPARATORS
  Spaces, tabs and commas separate tokens and are dropped.
  Line endings are removed before tokenizing.

OPERATOR TOKENS
  Runs of the characters & | = ! < > ( ) are split greedily into the
  longest known operator: &&  ||  ==  !=  <=  >=  <  >  (  )
  The words and, or, not are operators too, in any letter case.

QUOTING
  'single' or \"double\" quotes keep spaces and commas inside one token:
    Zone == 'Stormwind Harbor'

GROUPS
  ( ... ) nests clauses. Empty groups are dropped. A group left open at the
  end of the condition is dropped with its contents. A stray ) is ignored.
"

def operatorsText : String :=
"OPERATORS - Joins, Negation and Comparators

JOINS
  and, &&     both sides must hold
  or, ||      either side may hold
  A clause with no join before it (the first in a list) counts as 'and'.

NEGATION
  not         inverts the next clause or group:
                not IsInTown
                IsDead or not (Level > 10 and HasPet)

COMPARATORS
  ==  !=  <  <=  >  >=
  Numbers compare numerically, integers and decimals mixed freely.
  Text compares case-insensitively. Booleans support == and != only.
"

def clausesText : String :=
"CLAUSES - Shapes and Name Recognition

SHAPES
  true / false              literal
  Name                      boolean flag (BoolVariable)
  Name OP value             comparison (Variable)
  Name(args)                boolean method (BoolMethod)
  Name(args) OP value       method comparison (Method)
  Ns.Member [(args)] [OP v] namespace clause

RECOGNITION
  Variable, Method and Namespace names match exactly, ignoring case.
  BoolVariable and BoolMethod names match when the token contains the
  registered name; the longest registered name wins.

DROPPED CLAUSES
  An unknown name, a missing argument list, or a comparison without a
  valid operator and value drops that clause. The rest of the condition
  still parses. Run with --verbose to see why a clause was dropped.
"

def evaluationText : String :=
"EVALUATION - Folding Clauses

Clauses fold strictly left to right, without operator precedence:

  A or B and C     is  (A or B) and C

SHORT-CIRCUITING
  An 'or' clause reached while the result so far is true ends the fold
  with true. An 'and' clause reached while the result so far is false is
  skipped without calling its predicate.

ERRORS
  A predicate that fails, panics or is missing makes its clause false.
  The failure is logged and the fold carries on.

  An empty condition is false.
"

def factsText : String :=
"FACTS - Predicates for 'clause check'

'clause check' evaluates against a JSON object of facts:

  clause check \"Fact(level) >= 60\" --facts '\x7b\"level\": 72\x7d'

PREDICATES
  Fact(name) OP value     compare a scalar fact
  HasFact(name)           the fact exists
  IsSet(name)             the fact exists and is truthy
  Matches(name, pattern)  a scalar fact matches a regular expression
  Contains(name, item)    an array holds item, an object has key item,
                          or a string contains item
  Facts.name [OP value]   compare a fact, or test it for truthiness

Fact names match exactly first, then ignoring case.
"

/-- The text of a topic. -/
def text : Topic → String
  | grammar => grammarText
  | operators => operatorsText
  | clauses => clausesText
  | evaluation => evaluationText
  | facts => factsText

end Topic

/-- The overview of all topics. -/
def overview : String :=
"CLAUSE DOCUMENTATION

Clause conditions are short boolean sentences over named predicates, e.g.

  HasQuest(1234) and (Level >= 60 or ActorFound(5552))

A condition is split into tokens, parsed into a list of clauses joined by
and/or, and folded left to right into a single true or false.

DOCUMENTATION TOPICS

  syntax        Tokens, quoting, separators and grouping
  operators     Joins, negation and comparators
  clauses       The clause shapes and how names are recognised
  evaluation    Short-circuiting and error handling
  facts         The predicates available to 'clause check'

QUICK REFERENCE

  Name                  flag predicate
  Name OP value         variable comparison
  Name(a, b)            boolean method
  Name(a, b) OP value   method comparison
  Ns.Member [OP value]  namespace clause
  and or not ( )        joins, negation, groups
  == != < <= > >=       comparators

Run 'clause docs <topic>' for detailed documentation.
"

/-- The text of the topic of a name. -/
def topicText (name : String) : Except Fault String :=
  match Topic.ofName? name with
  | some t => .ok t.text
  | none => .error (.unknownTopic name)

end Criteria.Command
