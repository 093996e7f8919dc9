import Criteria.Queue.Host
import Criteria.Text.Quoted

/-!
Queue items: named lists of steps that are run one after another. An item may have a gate that
decides when it is ready, and hooks that are told when it begins and ends.
-/
namespace Criteria

/-- A decision about the steps of an item. -/
abbrev Gate (σ : Type) := List Nat → σ → Reply σ Bool

/-- Something to be told. -/
abbrev Hook (σ : Type) := σ → Reply σ Unit

structure QueueItem (σ : Type) where
  name : String
  nodes : List Nat
  /-- The place of the current step, once the item has started. -/
  cursor : Option Nat := none
  completed : Nat := 0
  gate : Option (Gate σ) := none
  ready : Bool := false
  /-- The item that waits while this one runs. -/
  parent : Option ItemId := none
  isRepeat : Bool := false
  persists : Bool := false
  onStart : Option (Hook σ) := none
  onDone : Option (Hook σ) := none

namespace QueueItem

variable {σ : Type}

def id (i : QueueItem σ) : ItemId := ⟨i.name, i.nodes⟩

def isStarted (i : QueueItem σ) : Bool := i.cursor.isSome

/-- The item that runs the steps inside a step of `parent`. -/
def childOf (parent : QueueItem σ) (stepName : String) (nodes : List Nat) : QueueItem σ :=
  { name := parent.name ++ "/" ++ stepName, nodes, ready := true, parent := some parent.id }

/-- Asks the gate, unless the item is ready already. Without a gate it becomes ready at once. -/
def checkReady (i : QueueItem σ) : Work σ (QueueItem σ) :=
  if i.ready then pure i
  else match i.gate with
    | none => pure { i with ready := true }
    | some g => do
      let answer ← Work.call (.gate i.id) (g i.nodes)
      return { i with ready := answer }

/-- Tells a hook, if there is one. The call is recorded in any case. -/
def tell (hook : Option (Hook σ)) (act : Act) : Work σ Unit :=
  .call (fun _ => act) fun w =>
    match hook with
    | some f => f w
    | none => ⟨(), w, []⟩

/-- Begins the item at its first step. -/
def start (h : StepHost σ) (i : QueueItem σ) : Work σ (QueueItem σ) := do
  tell i.onStart (.itemStart i.id)
  match i.nodes with
  | [] => return { i with cursor := some 0 }
  | first :: _ =>
    h.startStep first
    return { i with cursor := some 0 }

/-- Puts the item back to its state before it was queued, with its steps. -/
def reset (h : StepHost σ) (i : QueueItem σ) : Work σ (QueueItem σ) := do
  h.resetAll i.nodes
  return { i with cursor := none, completed := 0, ready := false }

def optionText (o : Option String) : String :=
  match o with
  | some s => "Some(" ++ s ++ ")"
  | none => "None"

def boolText (b : Bool) : String := if b then "true" else "false"

/-- A description of the item, given a text for identities. -/
def describe (idText : ItemId → String) (i : QueueItem σ) : String :=
  "QueueItem \x7b id: " ++ idText i.id ++ ", name: " ++ Text.quoted i.name ++
    ", nodes: " ++ toString i.nodes.length ++
    ", active_node: " ++ optionText (i.cursor.map toString) ++
    ", completed_nodes: " ++ toString i.completed ++ ", ready: " ++ boolText i.ready ++
    ", child_of: " ++ optionText (i.parent.map idText) ++
    ", repeat: " ++ boolText i.isRepeat ++ ", persist: " ++ boolText i.persists ++ " \x7d"

end QueueItem

end Criteria
