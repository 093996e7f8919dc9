import Criteria.Comparison

/-!
The predicates that conditions may name. Names are told apart without regard to case, and a later
predicate of a name takes the place of the earlier one. Names with a point in them may also belong
to a bridge, which answers for names that no predicate of the registry claims.
-/
namespace Criteria

/-- Where a predicate comes from. -/
inductive Source where
  | builtin
  | facts
  | host
deriving DecidableEq, Repr

/-- A registered predicate over worlds of type `ω`. -/
structure Entry (ω : Type) where
  name : String
  kind : PredicateKind
  source : Source
  predicate : Predicate ω

namespace Entry

variable {ω : Type}

/-- The small-letter form, by which the name is found. -/
def key (e : Entry ω) : String := Text.lowercase e.name

end Entry

/-- A host's own conditions: the names that it knows, and their evaluation. -/
structure Bridge (ω : Type) where
  contains : String → Bool
  evaluate : String → Predicate ω

structure Registry (ω : Type) where
  entries : List (Entry ω) := []
  bridge? : Option (Bridge ω) := none

/-- The predicate of the literals `true` and `false`. -/
def literalPredicate [Number.Decimals] (ω : Type) : Predicate ω := fun _ c =>
  match c.typedValue.asBool with
  | some b => .answer b
  | none => .error (.invalidParam Piece.literalMethod c.value "not a boolean literal")

namespace Registry

variable {ω : Type}

/-- The entry under a name, in any case. -/
def entry? (r : Registry ω) (name : String) : Option (Entry ω) :=
  r.entries.find? fun e => e.key == Text.lowercase name

def isKnown (r : Registry ω) (name : String) : Bool := (r.entry? name).isSome

def kindOf? (r : Registry ω) (name : String) : Option PredicateKind :=
  (r.entry? name).map Entry.kind

/-- Names in the order in which they were first registered. -/
def names (r : Registry ω) : List String := r.entries.map Entry.name

/-- Puts an entry in the place of the one with its name, or at the end. -/
def register (r : Registry ω) (e : Entry ω) : Registry ω :=
  if r.isKnown e.name then
    { r with entries := r.entries.map fun old => if old.key == e.key then e else old }
  else { r with entries := r.entries ++ [e] }

/-- What there is to report about a registration. -/
def registerEvents (r : Registry ω) (e : Entry ω) : List Event :=
  if r.isKnown e.name then [.replaced e.name] else []

/-- Registers entries one after another. -/
def registerAll (r : Registry ω) (es : List (Entry ω)) : Registry ω × List Event :=
  es.foldl (fun (r, events) e => (r.register e, events ++ r.registerEvents e)) (r, [])

/-- The registry that knows the literals and nothing else. -/
def initial [Number.Decimals] : Registry ω :=
  { entries := [⟨Piece.literalMethod, .flag, .builtin, literalPredicate ω⟩] }

/-- The longer of two names, the earlier one if they are equally long. -/
def longer (best : Option (Entry ω)) (e : Entry ω) : Option (Entry ω) :=
  match best with
  | some b => if b.name.utf8ByteSize ≥ e.name.utf8ByteSize then some b else some e
  | none => some e

/-- The entry of a kind whose name is the longest of those that occur in a token. -/
def contained? (r : Registry ω) (kind : PredicateKind) (token : String) : Option (Entry ω) :=
  (r.entries.filter fun e => e.kind == kind && Text.containsText e.key (Text.lowercase token)).foldl
    longer none

/-- The entry of a kind under exactly this name, in any case. -/
def named? (r : Registry ω) (kind : PredicateKind) (token : String) : Option (Entry ω) :=
  (r.entry? token).filter fun e => e.kind == kind

/-- The entry of a kind that a token stands for. A scope is found by what stands in front of the
first point; flags and queries are also found within a longer token. -/
def find? (r : Registry ω) (kind : PredicateKind) (token : String) : Option (Entry ω) :=
  match kind with
  | .scope => (Text.splitAt? '.' token).bind fun (scope, _) => r.named? .scope scope
  | .flag | .query => (r.named? kind token).or (r.contained? kind token)
  | .quantity | .method => r.named? kind token

/-- The registered name of a kind that a token stands for. -/
def resolve (r : Registry ω) (kind : PredicateKind) (token : String) : Option String :=
  (r.find? kind token).map Entry.name

/-- The kinds in the order in which a token without a point is looked up. -/
def kindOrder : List PredicateKind := [.quantity, .flag, .method, .query]

/-- The first kind that knows the token. -/
def classifyPlain (r : Registry ω) (token : String) : Option (PredicateKind × String) :=
  kindOrder.findSome? fun kind => (r.resolve kind token).map (kind, ·)

/-- The scope or the bridge that a token with a point belongs to. -/
def classifyDotted (r : Registry ω) (token : String) : Option (PredicateKind × String) :=
  match r.resolve .scope token with
  | some name => some (.scope, name)
  | none => if r.bridge?.any (·.contains token) then some (.scope, token) else none

/-- The shape and the predicate of a clause that begins with the token. -/
def classify (r : Registry ω) (token : String) : Option (PredicateKind × String) :=
  if token.toList.contains '.' then (r.classifyDotted token).or (r.classifyPlain token)
  else r.classifyPlain token

/-- The names of the registry, for reading. -/
def vocabulary (r : Registry ω) : Vocabulary := ⟨r.classify, r.isKnown⟩

end Registry

end Criteria
