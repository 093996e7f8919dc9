import Criteria.Registry
import Criteria.Reading

/-!
Evaluation. The expressions of a list are taken from left to right: an `or` behind a true result
ends the list with true, and an `and` behind a false result is passed over. Each call is recorded,
and one that gives no answer makes its clause false.
-/
namespace Criteria

/-- Who is asked about a clause. -/
inductive Callee where
  | entry (source : Source) (name : String)
  | bridge (name : String)
  | nobody
deriving DecidableEq

/-- A clause that has been asked about, and what came of it. -/
structure Dispatch where
  clause : Clause
  callee : Callee
  report : Report
deriving DecidableEq

namespace Dispatch

def isTrue (d : Dispatch) : Bool := d.report.outcome.isTrue

/-- What there is to report: first what the callee reports, then that it gave no answer. -/
def events (d : Dispatch) : List Event :=
  d.report.events ++ (d.report.outcome.event? d.clause).toList

end Dispatch

/-- A result with the calls that led to it, in order. -/
structure Verdict where
  value : Bool
  calls : List Dispatch

namespace Verdict

def events (v : Verdict) : List Event := v.calls.flatMap Dispatch.events

end Verdict

namespace Evaluation

mutual

/-- Evaluates what is left of a list. `running` is the result so far and `first` says that there is
none yet. -/
def foldFrom (ask : Clause → Dispatch) (running first : Bool) : List Expr → Verdict
  | [] => ⟨running, []⟩
  | e :: rest =>
    if e.clause.join == .or && (running || first) then ⟨true, []⟩
    else if e.clause.join != .or && !running && !first then foldFrom ask running false rest
    else
      let this := evaluateExpr ask e
      let next := foldFrom ask (this.value != (e.clause.join == .not)) false rest
      ⟨next.value, this.calls ++ next.calls⟩

/-- Evaluates one expression on its own, without its join. -/
def evaluateExpr (ask : Clause → Dispatch) : Expr → Verdict
  | .node c es =>
    if c.isGroup then
      let inner := foldFrom ask false true es
      ⟨inner.value != c.negated, inner.calls⟩
    else
      let d := ask c
      ⟨d.isTrue != c.negated, [d]⟩

end

/-- Evaluates a list of expressions. An empty one is false. -/
def evaluate (ask : Clause → Dispatch) (es : List Expr) : Verdict := foldFrom ask false true es

@[simp] theorem evaluate_nil (ask : Clause → Dispatch) : evaluate ask [] = ⟨false, []⟩ := by
  rw [evaluate, foldFrom]

end Evaluation

namespace Registry

variable {ω : Type}

/-- The bridge that answers for a clause of a scope. -/
def bridgeFor? (r : Registry ω) (c : Clause) : Option (Bridge ω) :=
  if c.kind == .call .scope then r.bridge?.filter (·.contains c.method) else none

/-- Asks the predicate of a clause, or else the bridge. -/
def dispatch (r : Registry ω) (world : ω) (c : Clause) : Dispatch :=
  match r.entry? c.method, r.bridgeFor? c with
  | some e, _ => ⟨c, .entry e.source e.name, e.predicate world c⟩
  | none, some b => ⟨c, .bridge c.method, b.evaluate c.method world c⟩
  | none, none => ⟨c, .nobody, .error (.unknown c.method)⟩

def evaluate (r : Registry ω) (world : ω) (es : List Expr) : Verdict :=
  Evaluation.evaluate (r.dispatch world) es

def evaluateExpr (r : Registry ω) (world : ω) (e : Expr) : Verdict :=
  Evaluation.evaluateExpr (r.dispatch world) e

/-- Reads and evaluates a condition text. -/
def check (r : Registry ω) (world : ω) (s : String) : Bool :=
  (r.evaluate world (parse r.vocabulary s)).value

end Registry

end Criteria
