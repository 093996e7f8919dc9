import Criteria.Event

/-!
Work on a world. A call to the outside answers and changes the world; work puts calls one after
another and keeps a record of them, in which events stand at their places.
-/
namespace Criteria

/-- The identity of a queue item: its name and its steps. -/
structure ItemId where
  name : String
  nodes : List Nat
deriving DecidableEq

/-- What is done in the course of work. Steps are given by their handles. -/
inductive Act where
  | gate (item : ItemId) (answer : Bool)
  | itemStart (item : ItemId)
  | itemDone (item : ItemId)
  | isDone (step : Nat) (answer : Bool)
  | children (step : Nat) (answer : List Nat)
  | stepStart (step : Nat)
  | run (step : Nat)
  | stepDone (step : Nat)
  | stepReset (step : Nat)
  | note (e : Event)
deriving DecidableEq

namespace Act

def event? : Act → Option Event
  | note e => some e
  | _ => none

end Act

/-- The answer to a call, with the world after it and the events of the call. -/
structure Reply (σ α : Type) where
  answer : α
  world : σ
  events : List Event := []

/-- What work has led to. -/
structure Done (σ α : Type) where
  value : α
  world : σ
  acts : List Act

namespace Done

variable {σ α : Type}

def events (d : Done σ α) : List Event := d.acts.filterMap Act.event?

end Done

/-- Work on a world of type `σ` with a result of type `α`. -/
def Work (σ α : Type) := σ → Done σ α

namespace Work

variable {σ α β : Type}

instance : Monad (Work σ) where
  pure a := fun w => ⟨a, w, []⟩
  bind m f := fun w =>
    let d := m w
    let d' := f d.value d.world
    ⟨d'.value, d'.world, d.acts ++ d'.acts⟩

@[simp] theorem pure_apply (a : α) (w : σ) : (pure a : Work σ α) w = ⟨a, w, []⟩ := rfl

@[simp] theorem bind_apply (m : Work σ α) (f : α → Work σ β) (w : σ) :
    (m >>= f) w =
      ⟨(f (m w).value (m w).world).value, (f (m w).value (m w).world).world,
        (m w).acts ++ (f (m w).value (m w).world).acts⟩ := rfl

/-- Looks at the world. -/
def look (f : σ → α) : Work σ α := fun w => ⟨f w, w, []⟩

/-- Reports an event. -/
def note (e : Event) : Work σ Unit := fun w => ⟨(), w, [.note e]⟩

def noteAll (es : List Event) : Work σ Unit := fun w => ⟨(), w, es.map .note⟩

/-- Makes a call, which is recorded with its answer and followed by its events. -/
def call (act : α → Act) (f : σ → Reply σ α) : Work σ α := fun w =>
  let r := f w
  ⟨r.answer, r.world, act r.answer :: r.events.map .note⟩

@[simp] theorem look_apply (f : σ → α) (w : σ) : look f w = ⟨f w, w, []⟩ := rfl
@[simp] theorem note_apply (e : Event) (w : σ) : note e w = ⟨(), w, [.note e]⟩ := rfl

end Work

end Criteria
