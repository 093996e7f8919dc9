import Criteria.Event
import Criteria.Token

/-!
Reading of conditions. The pieces of a condition are put together one after another: a join or a
negation waits for the next clause or group, a parenthesis opens or closes a group, and whatever is
dropped takes the waiting join and negation with it. Reading never fails; what it drops is reported.
-/
namespace Criteria

/-- A group that is still open. -/
structure Frame where
  join : Join
  negated : Bool
  children : List Expr

/-- What has been read so far. -/
structure Reading where
  join? : Option Join := none
  negated : Bool := false
  /-- Open groups, the innermost first. -/
  frames : List Frame := []
  root : List Expr := []

namespace Reading

def start : Reading := {}

/-- The join of the next clause or group. -/
def join (r : Reading) : Join := r.join?.getD .and

/-- Forgets the waiting join and negation. -/
def clear (r : Reading) : Reading := { r with join? := none, negated := false }

/-- Puts an expression at the end of the innermost open list. -/
def push (r : Reading) (e : Expr) : Reading :=
  match r.frames with
  | [] => { r with root := r.root ++ [e] }
  | f :: fs => { r with frames := { f with children := f.children ++ [e] } :: fs }

/-- Opens a group that takes the waiting join and negation. -/
def openGroup (r : Reading) : Reading :=
  { r with frames := ⟨r.join, r.negated, []⟩ :: r.frames }

/-- Closes the innermost group. An empty one is dropped. -/
def closeGroup (r : Reading) : Reading :=
  match r.frames with
  | [] => r
  | f :: fs =>
    let outer := { r with frames := fs }
    if f.children.isEmpty then outer else outer.push (.group f.join f.negated f.children)

/-- Adds a clause that takes the waiting join and negation. -/
def addClause (r : Reading) (c : Clause) : Reading :=
  r.push (.leaf { c with join := r.join, negated := r.negated })

/-- Reads one more piece. -/
def step (r : Reading) : Piece → Reading
  | .join j => { r with join? := some j }
  | .negation => { r with negated := true }
  | .opening => r.openGroup.clear
  | .closing => r.closeGroup.clear
  | .clause c => (r.addClause c).clear
  | .stray _ | .malformed _ _ _ | .unrecognized _ => r.clear

@[simp] theorem clear_root (r : Reading) : r.clear.root = r.root := rfl
@[simp] theorem clear_frames (r : Reading) : r.clear.frames = r.frames := rfl

/-- What the next piece, at a position among the tokens, gives to report. -/
def event? (r : Reading) (position : Nat) : Piece → Option Event
  | .closing =>
    match r.frames with
    | [] => some (.unbalanced position)
    | f :: _ => if f.children.isEmpty then some .emptyGroup else none
  | .stray c => some (.strayComparator c position)
  | .malformed token kind flaw => some (.malformed token kind flaw)
  | .unrecognized token => some (.unrecognized token position)
  | _ => none

/-- What is to report when no piece is left. -/
def endEvents (r : Reading) : List Event :=
  if r.frames.isEmpty then [] else [.unclosed r.frames.length]

/-- What there is to report about pieces from a position on. -/
def eventsFrom (r : Reading) (position : Nat) : List (Piece × Nat) → List Event
  | [] => r.endEvents
  | (piece, size) :: rest =>
    (r.event? position piece).toList ++ (r.step piece).eventsFrom (position + size) rest

end Reading

/-- The expressions of a list of tokens. Groups that stay open are dropped. -/
def parseTokens (v : Vocabulary) (tokens : List String) : List Expr :=
  ((Piece.scan v tokens).foldl (fun r p => r.step p.1) Reading.start).root

/-- What there is to report about a list of tokens. -/
def parseEvents (v : Vocabulary) (tokens : List String) : List Event :=
  Reading.start.eventsFrom 0 (Piece.scan v tokens)

/-- The expressions of a condition text. -/
def parse (v : Vocabulary) (s : String) : List Expr := parseTokens v (tokenize s)

end Criteria
