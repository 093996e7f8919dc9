import Criteria.Queue.Host

/-!
Stock steps: an action that is polled, a wait, a sequence, a choice and a loop, and steps of the
host's own. A step may hold earlier steps, so what is inside a step has a smaller handle; the same
step may be held by several others.
-/
namespace Criteria

/-- A question to the world around the steps. -/
abbrev Poll (σ : Type) := σ → Reply σ Bool

/-- A step of the host's own, without steps inside it. -/
structure OwnStep (σ : Type) where
  isDone : σ → Bool
  run : σ → σ
  onStart : σ → σ := id
  onDone : σ → σ := id
  reset : σ → σ := id

/-- A stock step with the given handle. -/
inductive StockStep (σ : Type) (handle : Nat) where
  /-- Done once its poll says so. -/
  | action (poll : Poll σ)
  /-- Done some milliseconds after it began, by its own clock. -/
  | wait (clock : σ → Nat) (duration : Nat)
  /-- Done once all its steps are. -/
  | sequence (children : List (Fin handle))
  /-- Runs its steps if the gate holds at the beginning. -/
  | branch (gate : Poll σ) (children : List (Fin handle))
  /-- Runs its steps again and again while the gate holds. -/
  | loop (gate : Poll σ) (children : List (Fin handle))
  | own (step : OwnStep σ)

/-- The steps of a plan with their names, by handle. -/
structure StepPlan (σ : Type) where
  /-- The clock of the queue. -/
  now : σ → Nat
  name : Nat → σ → String
  step : (handle : Nat) → StockStep σ handle

/-- What stock steps remember. -/
structure StepState where
  done : Bool := false
  startedAt : Option Nat := none
  entered : Option Bool := none
  iterations : Nat := 0
  finished : Bool := false
deriving DecidableEq

/-- The states of all steps, and the world around them. -/
structure Site (σ : Type) where
  states : Nat → StepState := fun _ => {}
  world : σ
  /-- The steps that have asked the world, with the answers, in order. -/
  asked : List (Nat × Bool) := []

namespace Site

variable {σ : Type}

/-- Changes the state of one step. -/
def put (s : Site σ) (step : Nat) (state : StepState) : Site σ :=
  { s with states := fun i => if i = step then state else s.states i }

@[simp] theorem put_same (s : Site σ) (step : Nat) (state : StepState) :
    (s.put step state).states step = state := by simp [put]

@[simp] theorem put_other (s : Site σ) (step i : Nat) (state : StepState) (h : i ≠ step) :
    (s.put step state).states i = s.states i := by simp [put, h]

@[simp] theorem put_world (s : Site σ) (step : Nat) (state : StepState) :
    (s.put step state).world = s.world := rfl

@[simp] theorem put_asked (s : Site σ) (step : Nat) (state : StepState) :
    (s.put step state).asked = s.asked := rfl

end Site

namespace StepPlan

variable {σ : Type}

/-- Handles as the queue sees them. -/
def handles {n : Nat} (children : List (Fin n)) : List Nat := children.map Fin.val

/-- Whether a step is done. -/
def isDone (p : StepPlan σ) (s : Site σ) (step : Nat) : Bool :=
  match p.step step with
  | .action _ => (s.states step).done
  | .wait clock duration =>
    (s.states step).startedAt.any fun start => duration ≤ clock s.world - start
  | .sequence children => children.all fun c => p.isDone s c.val
  | .branch _ children =>
    match (s.states step).entered with
    | some true => children.all fun c => p.isDone s c.val
    | some false => true
    | none => false
  | .loop _ _ => (s.states step).finished
  | .own step => step.isDone s.world
termination_by step
decreasing_by all_goals exact c.isLt

/-- Whether all steps inside a step are done. -/
def allDone (p : StepPlan σ) (s : Site σ) (children : List Nat) : Bool :=
  children.all (p.isDone s)

/-- Puts a step back to its beginning, with the steps inside it. -/
def resetStep (p : StepPlan σ) (s : Site σ) (step : Nat) : Site σ :=
  let state := s.states step
  match p.step step with
  | .action _ => s.put step { state with done := false }
  | .wait _ _ => s.put step { state with startedAt := none }
  | .sequence children => children.foldl (fun s c => p.resetStep s c.val) s
  | .branch _ children =>
    children.foldl (fun s c => p.resetStep s c.val) (s.put step { state with entered := none })
  | .loop _ children =>
    children.foldl (fun s c => p.resetStep s c.val)
      (s.put step { state with iterations := 0, finished := false })
  | .own step => { s with world := step.reset s.world }
termination_by step
decreasing_by all_goals exact c.isLt

/-- Puts steps back one after another. -/
def resetAll (p : StepPlan σ) (s : Site σ) (children : List Nat) : Site σ :=
  children.foldl p.resetStep s

/-- Asks the world around the steps. -/
def ask {α : Type} (question : σ → Reply σ α) (s : Site σ) : Reply (Site σ) α :=
  let r := question s.world
  ⟨r.answer, { s with world := r.world }, r.events⟩

/-- Asks the world on behalf of a step, and keeps the answer on record. -/
def query (poll : Poll σ) (step : Nat) (s : Site σ) : Reply (Site σ) Bool :=
  let r := ask poll s
  ⟨r.answer, { r.world with asked := r.world.asked ++ [(step, r.answer)] }, r.events⟩

/-- Decides whether a choice is entered, unless that is decided already. -/
def decide (gate : Poll σ) (step : Nat) (s : Site σ) : Reply (Site σ) Bool :=
  match (s.states step).entered with
  | some b => ⟨b, s, []⟩
  | none =>
    let r := query gate step s
    ⟨r.answer, r.world.put step { r.world.states step with entered := some r.answer }, r.events⟩

/-- The steps inside a loop that are to be run now. The gate is asked before the first round, and
whenever a round has come to its end. -/
def loopChildren (p : StepPlan σ) (gate : Poll σ) (step : Nat) (children : List Nat) (s : Site σ) :
    Reply (Site σ) (List Nat) :=
  let state := s.states step
  if state.finished then ⟨[], s, []⟩
  else if state.iterations = 0 || p.allDone s children then
    let r := query gate step s
    if r.answer then
      let s := p.resetAll r.world children
      ⟨children, s.put step { s.states step with iterations := (s.states step).iterations + 1 },
        r.events⟩
    else ⟨[], r.world.put step { r.world.states step with finished := true }, r.events⟩
  else ⟨children, s, []⟩

/-- The steps inside a step that are still to be run. -/
def children (p : StepPlan σ) (step : Nat) (s : Site σ) : Reply (Site σ) (List Nat) :=
  match p.step step with
  | .sequence children => ⟨if p.isDone s step then [] else handles children, s, []⟩
  | .branch gate children =>
    let r := decide gate step s
    ⟨if !r.answer || p.allDone r.world (handles children) then [] else handles children,
      r.world, r.events⟩
  | .loop gate children => p.loopChildren gate step (handles children) s
  | .action _ | .wait _ _ | .own _ => ⟨[], s, []⟩

/-- Only leaves and choices have something to run. -/
def run (p : StepPlan σ) (step : Nat) (s : Site σ) : Reply (Site σ) Unit :=
  let state := s.states step
  match p.step step with
  | .action poll =>
    if state.done then ⟨(), s, []⟩
    else
      let r := query poll step s
      ⟨(), r.world.put step { r.world.states step with done := r.answer }, r.events⟩
  | .wait clock _ =>
    if state.startedAt.isSome then ⟨(), s, []⟩
    else ⟨(), s.put step { state with startedAt := some (clock s.world) }, []⟩
  | .branch gate _ =>
    let r := decide gate step s
    ⟨(), r.world, r.events⟩
  | .sequence _ | .loop _ _ => ⟨(), s, []⟩
  | .own step => ⟨(), { s with world := step.run s.world }, []⟩

/-- A wait counts from here, and a choice is decided. -/
def onStart (p : StepPlan σ) (step : Nat) (s : Site σ) : Reply (Site σ) Unit :=
  match p.step step with
  | .wait clock _ =>
    ⟨(), s.put step { s.states step with startedAt := some (clock s.world) }, []⟩
  | .branch gate _ =>
    let r := decide gate step s
    ⟨(), r.world, r.events⟩
  | .own step => ⟨(), { s with world := step.onStart s.world }, []⟩
  | .action _ | .sequence _ | .loop _ _ => ⟨(), s, []⟩

def onDone (p : StepPlan σ) (step : Nat) (s : Site σ) : Reply (Site σ) Unit :=
  match p.step step with
  | .own step => ⟨(), { s with world := step.onDone s.world }, []⟩
  | _ => ⟨(), s, []⟩

/-- How often a loop has been entered. Other steps do not count. -/
def iterations? (p : StepPlan σ) (step : Nat) (s : Site σ) : Option Nat :=
  match p.step step with
  | .loop _ _ => some (s.states step).iterations
  | _ => none

/-- The plan as a host of steps. -/
def host (p : StepPlan σ) : StepHost (Site σ) where
  now s := p.now s.world
  name step s := p.name step s.world
  isDone step s := ⟨p.isDone s step, s, []⟩
  children := p.children
  run := p.run
  onStart := p.onStart
  onDone := p.onDone
  reset step s := ⟨(), p.resetStep s step, []⟩

end StepPlan

end Criteria
