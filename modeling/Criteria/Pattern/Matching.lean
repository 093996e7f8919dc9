import Criteria.Pattern

/-!
What a pattern matches. A pattern leads from places in a text to other places; it matches the text
if some place can be reached from any.
-/
namespace Criteria.Pattern

/-- Places in a text, each once and in order. -/
abbrev Places := List Nat

def merge (a b : Places) : Places := (a.merge b (· ≤ ·)).eraseReps

/-- Marks the places as reached. -/
def mark (reached : Array Bool) (places : Places) : Array Bool :=
  places.foldl (fun reached i => reached.setIfInBounds i true) reached

/-- The places reached by taking the step any number of times up to the limit. Only places that are
new are followed any further. -/
def spread (step : Places → Places) : Nat → Places → Array Bool → Array Bool
  | 0, _, reached => reached
  | limit + 1, places, reached =>
    match (step places).filter fun i => !reached.getD i true with
    | [] => reached
    | fresh => spread step limit fresh (mark reached fresh)

/-- The places reached by taking the step at most so many times; the text has `size` places. -/
def atMost (step : Places → Places) (limit size : Nat) (places : Places) : Places :=
  let reached := spread step limit places (mark (Array.replicate size false) places)
  (List.range size).filter fun i => reached.getD i false

/-- The places reached by taking the step a number of times. -/
def iterate (step : Places → Places) : Nat → Places → Places
  | 0, places => places
  | n + 1, places =>
    let next := step places
    if next == places then places else iterate step n next

/-- The places that come after all the characters. -/
def follow (text : Array Char) (cs : List Char) (places : Places) : Places :=
  let step (places : Places) (c : Char) : Places :=
    places.filterMap fun i => if text[i]? = some c then some (i + 1) else none
  cs.foldl step places

mutual

/-- The places that can be reached from the given ones. -/
def reach (text : Array Char) : Pattern → Places → Places
  | empty, places => places
  | chars cs, places => follow text cs places
  | set s, places =>
    places.filterMap fun i => if text[i]?.any s.contains then some (i + 1) else none
  | anchor a, places =>
    places.filter fun i => a.holds (if i = 0 then none else text[i - 1]?) text[i]?
  | seq ps, places => reachAll text ps places
  | alt ps, places => reachAny text ps places
  | group _ p, places => reach text p places
  | times p least greatest _, places =>
    let size := text.size + 1
    let start := iterate (reach text p) least places
    atMost (reach text p) ((greatest.map (· - least)).getD size) size start

/-- One pattern after another. -/
def reachAll (text : Array Char) : List Pattern → Places → Places
  | [], places => places
  | p :: ps, places => reachAll text ps (reach text p places)

/-- Any one of the patterns. -/
def reachAny (text : Array Char) : List Pattern → Places → Places
  | [], _ => []
  | p :: ps, places => merge (reach text p places) (reachAny text ps places)

end

/-- Whether the pattern matches some part of the text. -/
def isMatch (p : Pattern) (s : String) : Bool :=
  let text := s.toList.toArray
  !(reach text p (List.range (text.size + 1))).isEmpty

end Criteria.Pattern
