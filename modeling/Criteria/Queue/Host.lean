import Criteria.Queue.Work

/-!
Hosts of steps. A host knows steps by their handles; it can say whether a step is done and which
steps are inside it, run it, and be told that it begins, ends or is put back to its beginning.
-/
namespace Criteria

/-- The steps of a host, as the queue sees them. -/
structure StepHost (σ : Type) where
  /-- The time, in milliseconds. -/
  now : σ → Nat
  name : Nat → σ → String
  isDone : Nat → σ → Reply σ Bool
  /-- The steps inside a step that are still to be run. -/
  children : Nat → σ → Reply σ (List Nat)
  run : Nat → σ → Reply σ Unit
  onStart : Nat → σ → Reply σ Unit
  onDone : Nat → σ → Reply σ Unit
  reset : Nat → σ → Reply σ Unit

namespace StepHost

variable {σ : Type}

def askDone (h : StepHost σ) (step : Nat) : Work σ Bool := .call (.isDone step) (h.isDone step)

def askChildren (h : StepHost σ) (step : Nat) : Work σ (List Nat) :=
  .call (.children step) (h.children step)

def runStep (h : StepHost σ) (step : Nat) : Work σ Unit :=
  .call (fun _ => .run step) (h.run step)

def startStep (h : StepHost σ) (step : Nat) : Work σ Unit :=
  .call (fun _ => .stepStart step) (h.onStart step)

def endStep (h : StepHost σ) (step : Nat) : Work σ Unit :=
  .call (fun _ => .stepDone step) (h.onDone step)

def resetStep (h : StepHost σ) (step : Nat) : Work σ Unit :=
  .call (fun _ => .stepReset step) (h.reset step)

/-- Puts steps back one after another. -/
def resetAll (h : StepHost σ) : List Nat → Work σ Unit
  | [] => pure ()
  | step :: rest => do
    h.resetStep step
    h.resetAll rest

end StepHost

end Criteria
