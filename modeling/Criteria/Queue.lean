import Criteria.Queue.Item

/-!
Queues of items. One item is active at a time. With each tick the queue does one thing: it begins
the active item, runs its current step, or goes on to the next one. While the steps inside a step
are run as an item of their own, the item around them waits on the shelf.
-/
namespace Criteria

structure Queue (σ : Type) where
  /-- The least time between two rounds of gates, in milliseconds. -/
  interval : Nat := 250
  pending : List (QueueItem σ) := []
  active : Option (QueueItem σ) := none
  /-- Items that wait for the one above them, the innermost first. -/
  shelf : List (QueueItem σ) := []
  /-- The time of the last round of gates. -/
  lastRound : Option Nat := none

/-- Why an item is not taken in. -/
inductive Refusal where
  | noSteps (name : String)
  | duplicate (name : String) (id : ItemId)
deriving DecidableEq

/-- What a tick found to do. -/
inductive TickStatus where
  | idle
  | running
deriving DecidableEq, Repr

namespace TickStatus

def text : TickStatus → String
  | idle => "Idle"
  | running => "Running"

end TickStatus

namespace Refusal

/-- The message about a refused item, given a text for identities. -/
def message (idText : ItemId → String) : Refusal → String
  | noSteps name => "queue item '" ++ name ++ "' has no steps"
  | duplicate name id =>
    "queue item '" ++ name ++ "' (" ++ idText id ++ ") is already queued or running"

def event : Refusal → Event
  | noSteps name => .refusedEmpty name
  | duplicate name _ => .refusedDuplicate name

end Refusal

namespace Queue

variable {σ : Type}

/-- All items of the queue: the active one, those on the shelf and those that are pending. -/
def items (q : Queue σ) : List (QueueItem σ) := q.active.toList ++ q.shelf ++ q.pending

def contains (q : Queue σ) (id : ItemId) : Bool := q.items.any fun i => i.id == id

def isIdle (q : Queue σ) : Bool := q.active.isNone

/-- Whether and why an item is refused. -/
def refusal? (q : Queue σ) (i : QueueItem σ) : Option Refusal :=
  if i.nodes.isEmpty then some (.noSteps i.name)
  else if q.contains i.id then some (.duplicate i.name i.id)
  else none

/-- Puts an item at the end of the pending ones. -/
def enqueue (q : Queue σ) (i : QueueItem σ) : Queue σ := { q with pending := q.pending ++ [i] }

/-- Takes an item in, unless it is refused. -/
def submit (q : Queue σ) (i : QueueItem σ) : Work σ (Option Refusal × Queue σ) :=
  match q.refusal? i with
  | some refusal => do
    Work.note refusal.event
    return (some refusal, q)
  | none => do
    Work.note (.queued i.name i.nodes.length)
    return (none, q.enqueue i)

/-- Whether the next round of gates is due. -/
def isRoundDue (q : Queue σ) (now : Nat) : Bool :=
  match q.lastRound with
  | some last => q.interval ≤ now - last
  | none => true

/-- Asks the gates of items in order. -/
def checkAll : List (QueueItem σ) → Work σ (List (QueueItem σ))
  | [] => pure []
  | i :: rest => do
    let i ← i.checkReady
    let rest ← checkAll rest
    return i :: rest

/-- Holds a round of gates if one is due. -/
def refresh (q : Queue σ) (now : Nat) : Work σ (Queue σ) :=
  if q.isRoundDue now then do
    let pending ← checkAll q.pending
    return { q with pending, lastRound := some now }
  else pure q

/-- The first ready item, and the others. -/
def takeReady : List (QueueItem σ) → Option (QueueItem σ × List (QueueItem σ))
  | [] => none
  | i :: rest =>
    if i.ready then some (i, rest)
    else (takeReady rest).map fun (found, others) => (found, i :: others)

/-- Makes an item the active one. -/
def activate (q : Queue σ) (i : QueueItem σ) : Queue σ := { q with active := some i }

/-- Lets the item wait on the shelf while the steps inside its current step are run. -/
def shelve (h : StepHost σ) (q : Queue σ) (i : QueueItem σ) (step : Nat) (children : List Nat) :
    Work σ (Queue σ) := do
  let name ← Work.look (h.name step)
  let child := i.childOf name children
  Work.note (.shelved i.name child.name (q.shelf.length + 1))
  return { q with shelf := i :: q.shelf, active := some child }

/-- Goes on with the item that waited for the completed one. -/
def resume (q : Queue σ) (i parent : QueueItem σ) (shelf : List (QueueItem σ)) :
    Work σ (Queue σ) := do
  if i.parent ≠ some parent.id then Work.note (.orphaned i.name parent.name)
  Work.note (.resumed parent.name parent.cursor)
  return { q with shelf, active := some parent }

/-- Takes a completed item in once more. -/
def requeue (h : StepHost σ) (q : Queue σ) (i : QueueItem σ) : Work σ (Queue σ) := do
  let i ← i.reset h
  let (refusal, q) ← q.submit i
  if refusal.isSome then Work.note (.notRequeued i.name)
  return q

/-- Ends an item. The one that waited for it goes on, or else it is queued again if it is to be
repeated. -/
def complete (h : StepHost σ) (q : Queue σ) (i : QueueItem σ) : Work σ (Queue σ) := do
  QueueItem.tell i.onDone (.itemDone i.id)
  Work.note (.completed i.name i.completed)
  match q.shelf with
  | parent :: shelf => q.resume i parent shelf
  | [] =>
    let q := { q with active := none }
    if i.isRepeat then q.requeue h i else return q

/-- Ends the current step and goes on to the next one, or ends the item with the last one. -/
def advance (h : StepHost σ) (q : Queue σ) (i : QueueItem σ) (place step : Nat) :
    Work σ (Queue σ) := do
  h.endStep step
  let i := { i with completed := i.completed + 1 }
  match i.nodes[place + 1]? with
  | some next =>
    h.startStep next
    return q.activate { i with cursor := some (place + 1) }
  | none => q.complete h i

/-- Deals with the current step: it has come to its end, has steps inside it, or is run. -/
def proceed (h : StepHost σ) (q : Queue σ) (i : QueueItem σ) (place step : Nat) :
    Work σ (Queue σ) := do
  if ← h.askDone step then q.advance h i place step
  else
    match ← h.askChildren step with
    | [] =>
      h.runStep step
      return q.activate i
    | children => q.shelve h i step children

/-- Does one thing with the active item. -/
def work (h : StepHost σ) (q : Queue σ) (i : QueueItem σ) : Work σ (Queue σ) :=
  match i.cursor with
  | none => do
    let i ← i.start h
    return q.activate i
  | some place =>
    match i.nodes[place]? with
    | some step => q.proceed h i place step
    -- No queue gets here: the cursor of the active item is always within its steps.
    | none => q.complete h i

/-- Advances the queue. A round of gates is held first if one is due; then the active item, or else
the first ready one, is worked on. -/
def tick (h : StepHost σ) (q : Queue σ) : Work σ (TickStatus × Queue σ) := do
  let now ← Work.look h.now
  let q ← q.refresh now
  match q.active with
  | some i =>
    let q ← q.work h i
    return (.running, q)
  | none =>
    match takeReady q.pending with
    | none => return (.idle, q)
    | some (i, pending) =>
      Work.note (.activated i.name)
      let q ← { q with pending }.work h i
      return (.running, q)

/-- Drops all items. -/
def reset (q : Queue σ) : Work σ (Queue σ) := do
  Work.note (.reset q.pending.length q.shelf.length)
  return { interval := q.interval }

/-- The item that the host queued and that is being worked on: the outermost one on the shelf, or
the active one. -/
def root? (q : Queue σ) : Option (QueueItem σ) := q.shelf.getLast?.or q.active

/-- Drops all items but those that persist. One that was being worked on is put back and comes
first. -/
def softReset (h : StepHost σ) (q : Queue σ) : Work σ (Queue σ) := do
  let kept := q.pending.filter (·.persists)
  let pending ← match q.root?.filter (·.persists) with
    | some root => do
      let root ← root.reset h
      pure (root :: kept)
    | none => pure kept
  Work.note (.softReset pending.length)
  return { interval := q.interval, pending }

end Queue

end Criteria
