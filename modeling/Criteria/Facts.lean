import Criteria.Json
import Criteria.Value

/-!
Fact sheets: named JSON values that a host publishes. A fact is looked up by its exact name first,
and else by the first name that is the same but for the case of ASCII letters.
-/
namespace Criteria

structure FactSheet where
  facts : Table Json := []

/-- Why a text is no fact sheet. -/
inductive FactFault where
  | notJson (reason : String)
  | notObject (typeName : String)
deriving DecidableEq

namespace FactFault

def message : FactFault → String
  | notJson reason => "invalid fact JSON: " ++ reason
  | notObject typeName => "facts must be a JSON object, got " ++ typeName

end FactFault

namespace Json

/-- The value of a scalar. Integers that do not fit 64 bits with a sign become floating-point
numbers. -/
def scalar? : Json → Option Value
  | bool b => some (.bool b)
  | integer n =>
    if -Int.pow 2 63 ≤ n && n < Int.pow 2 63 then some (.int (Int64.ofInt n))
    else some (.float (.ofInt n))
  | real x => some (.float x)
  | text s => some (.text s)
  | null | array _ | object _ => none

/-- Whether a value counts as true: it is not null, false, zero or empty. -/
def isTruthy : Json → Bool
  | null => false
  | bool b => b
  | integer n => n != 0
  | real x => !x.isZero
  | text s => s != ""
  | array items => !items.isEmpty
  | object fields => !fields.isEmpty

/-- Whether an item is the wanted one: texts up to the case of ASCII letters, other scalars by their
order. -/
def isItem [Number.Decimals] (wanted : String) (j : Json) : Bool :=
  match j.scalar? with
  | some (.text s) => Text.eqIgnoringAsciiCase s wanted
  | some v => v.order? (.ofLiteral wanted) == some .eq
  | none => false

end Json

namespace FactSheet

def empty : FactSheet := {}

def ofJson : Json → Except FactFault FactSheet
  | .object fields => .ok ⟨fields⟩
  | j => .error (.notObject j.typeName)

/-- Reads a fact sheet from a JSON text. -/
def read [JsonFormat] (s : String) : Except FactFault FactSheet :=
  match JsonFormat.read s with
  | .ok j => ofJson j
  | .error reason => .error (.notJson reason)

def set (f : FactSheet) (name : String) (value : Json) : FactSheet := ⟨f.facts.insert name value⟩

/-- Takes out the fact of exactly this name. -/
def remove (f : FactSheet) (name : String) : FactSheet := ⟨f.facts.erase name⟩

/-- The fact of exactly this name. -/
def same? (f : FactSheet) (name : String) : Option Json := f.facts.find? name

/-- Takes out the fact of exactly this name, and tells what it was. -/
def take (f : FactSheet) (name : String) : Option Json × FactSheet :=
  (f.same? name, f.remove name)

/-- The first fact whose name is the same up to the case of ASCII letters. -/
def similar? (f : FactSheet) (name : String) : Option Json :=
  (List.find? (fun entry => Text.eqIgnoringAsciiCase entry.1 name) f.facts).map Prod.snd

def get? (f : FactSheet) (name : String) : Option Json := (f.same? name).or (f.similar? name)

def contains (f : FactSheet) (name : String) : Bool := (f.get? name).isSome

def size (f : FactSheet) : Nat := f.facts.length

@[simp] theorem get?_empty (name : String) : empty.get? name = none := rfl
@[simp] theorem size_empty : empty.size = 0 := rfl

end FactSheet

end Criteria
