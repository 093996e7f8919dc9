import Std.Data.HashMap
import Criteria.Pattern
import Criteria.Text.Encoding

/-!
The memory of a pattern. A pattern is searched by an automaton over bytes, once forwards and once
backwards, whose states are counted here. States are numbered in the order in which they are made;
the numbers matter where equal states of a set of characters are made only once.
-/
namespace Criteria.Pattern

open Text (CharSet ByteRange)
open Text

namespace Footprint

/-- The memory of a state, in bytes, without its edges. -/
def stateSize : Nat := 32

/-- The memory of an edge that is taken without a byte. -/
def linkSize : Nat := 4

/-- The memory of an edge that is taken by bytes of a range. -/
def stepSize : Nat := 8

/-- The greatest memory of an automaton. -/
def limit : Nat := 10 * Nat.pow 2 20

/-- How many states there are, and the memory of their edges. -/
structure Extent where
  states : Nat
  edges : Nat

def Extent.memory (e : Extent) : Nat := stateSize * e.states + e.edges

/-- The making of a part of an automaton, unless the memory is exceeded. -/
abbrev Build := StateT Extent Option

/-- Adds states with so much memory for their edges. -/
def grow (states edges : Nat) : Build Unit := fun e =>
  let e := ⟨e.states + states, e.edges + edges⟩
  if e.memory ≤ limit then some ((), e) else none

/-- Adds a state and gives its number. -/
def newState (edges : Nat) : Build Nat := fun e =>
  (grow 1 edges e).map fun (_, after) => (e.states, after)

/-- The kind of state in which a part ends. A fork has a list of edges, which takes more memory with
each. -/
inductive Final where
  | fork
  | plain
deriving DecidableEq

/-- Adds the edge that leads on from the end of a part. -/
def leave (final : Final) : Build Unit :=
  if final = .fork then grow 0 linkSize else pure ()

/-- Parts one after another. -/
def chain : List (Build Final) → Build Final
  | [] => do
    grow 1 0
    return .plain
  | [part] => part
  | part :: rest => do
    leave (← part)
    chain rest

/-- A part so many times. -/
def copies (part : Build Final) : Nat → Build Final
  | 0 => do
    grow 1 0
    return .plain
  | 1 => part
  | n + 2 => do
    leave (← part)
    copies part (n + 1)

/-- A part that may be left out. -/
def optional (part : Build Final) : Build Final := do
  grow 1 0
  let final ← part
  grow 1 (2 * linkSize)
  leave final
  return .plain

/-- A part any number of times. If it may match nothing, it is an optional part that repeats. -/
def star (part : Build Final) (mayBeEmpty : Bool) : Build Final :=
  if mayBeEmpty then do
    leave (← part)
    grow 3 (4 * linkSize)
    return .plain
  else do
    grow 1 linkSize
    leave (← part)
    return .fork

/-- A part at least once. -/
def plus (part : Build Final) : Build Final := do
  leave (← part)
  grow 1 linkSize
  return .fork

/-- A part up to so many times after another one has ended. -/
def upTo (part : Build Final) : Nat → Final → Build Unit
  | 0, final => leave final
  | n + 1, final => do
    grow 1 (2 * linkSize)
    let next ← part
    leave final
    upTo part n next

/-- A part between `least` and `greatest` times. -/
def counted (part : Build Final) (least : Nat) (greatest : Option Nat) (mayBeEmpty : Bool) :
    Build Final :=
  match least, greatest with
  | 0, some 1 => optional part
  | 0, none => star part mayBeEmpty
  | 1, none => plus part
  | n + 2, none => do
    leave (← copies part (n + 1))
    plus part
  | least, some greatest => do
    let final ← copies part least
    if greatest ≤ least then return final
    grow 1 0
    upTo part (greatest - least) final
    return .plain

/-- The parts of which one is taken. -/
def fork : List (Build Final) → Build Final
  | [] => do
    grow 2 0
    return .plain
  | [part] => part
  | first :: second :: rest => do
    let one ← first
    let two ← second
    grow 2 (2 * linkSize)
    leave one
    leave two
    rest.forM fun part => do
      leave (← part)
      grow 0 linkSize
    return .plain

/-- A state with an edge for each range. -/
def ranges (count : Nat) : Build Final := do
  grow 2 (count * stepSize)
  return .plain

/-! ## Sets beyond ASCII -/

/-- An edge by the bytes of a range to a state. -/
abbrev Step := ByteRange × Nat

/-- The number under which a list of code numbers is kept, of `slots` numbers. -/
def slot (slots : Nat) (ns : List Nat) : Nat :=
  let mix (h : UInt64) (n : Nat) : UInt64 := (h ^^^ n.toUInt64) * 1099511628211
  (ns.foldl mix 14695981039346656037).toNat % slots

/-- States that have been made, by what leads on from them. Each takes the place of the one that was
kept under the same number. -/
abbrev Kept (α : Type) := Std.HashMap Nat (α × Nat)

/-- The state for what leads on from it: one that is kept under the number, or a new one. -/
def stateOf {α : Type} [BEq α] (key : Nat) (exits : α) (edges : Nat) :
    StateT (Kept α) Build Nat := do
  let make : StateT (Kept α) Build Nat := do
    let state ← newState edges
    modify (·.insert key (exits, state))
    return state
  match (← get)[key]? with
  | some (kept, state) => if kept == exits then return state else make
  | none => make

/-- Sequences with the same first range, one after another. -/
def byFirst (seqs : List (List ByteRange)) : List (ByteRange × List (List ByteRange)) :=
  seqs.foldr
    (fun seq groups =>
      match seq, groups with
      | [], groups => groups
      | r :: tail, (s, tails) :: rest =>
        if r = s then (s, tail :: tails) :: rest else (r, [tail]) :: (s, tails) :: rest
      | r :: tail, [] => [(r, [tail])])
    []

/-- The state from which the sequences lead to the end; they have at most so many ranges. -/
def tree (finish : Nat) : Nat → List (List ByteRange) → StateT (Kept (List Step)) Build Nat
  | 0, _ => return finish
  | length + 1, seqs =>
    if seqs.all List.isEmpty then return finish
    else do
      let steps ← (byFirst seqs).mapM fun (r, tails) => return (r, ← tree finish length tails)
      let key := slot 10000 (steps.flatMap fun s => [s.1.first, s.1.last, s.2])
      stateOf key steps (steps.length * stepSize)

/-- A set of characters, read forwards. -/
def forwardSet (s : CharSet) : Build Final := do
  let finish ← newState 0
  let _ ← (tree finish 4 (Encoding.sequences s)).run ∅
  return .plain

/-- The state from which a sequence leads backwards to the end. -/
def path (finish : Nat) : List ByteRange → StateT (Kept Step) Build Nat
  | [] => return finish
  | r :: rest => do
    path (← stateOf (slot 1000 [finish, r.first, r.last]) (r, finish) 0) rest

/-- A set of characters, read backwards. -/
def backwardSet (s : CharSet) : Build Final := do
  let finish ← (do grow 1 0; newState 0)
  let paths := (Encoding.sequences s).forM fun seq => do
    let _ ← path finish seq
    grow 0 linkSize
  let _ ← paths.run ∅
  return .plain

/-! ## Texts as alternatives -/

/-- What follows the texts that begin with a byte, in order. -/
def tailsAt (b : Nat) (texts : List (List Nat)) : List (List Nat) :=
  texts.filterMap fun
    | [] => none
    | c :: tail => if c = b then some tail else none

/-- The texts between those that are empty. Of empty texts in front of all others only one
counts. -/
def between (texts : List (List Nat)) : List (List (List Nat)) :=
  match texts.span List.isEmpty with
  | ([], texts) => texts.splitOnP List.isEmpty
  | (_, texts) => [] :: texts.splitOnP List.isEmpty

/-- A tree of texts, of which none is longer than the length given. Texts that begin alike share the
states of their beginnings up to the next text that ends there. -/
def textTree : Nat → List (List Nat) → Build Unit
  | 0, _ => pure ()
  | length + 1, texts => do
    if texts.all List.isEmpty then return
    let groups := between texts
    grow 1 ((groups.length - 1) * linkSize)
    groups.forM fun group => do
      let firsts := (group.filterMap List.head?).eraseDups
      firsts.forM fun b => textTree length (tailsAt b group)
      if firsts.length = 1 then grow 1 linkSize
      else if 1 < firsts.length then grow 1 (firsts.length * stepSize + linkSize)

/-- Texts of which one is taken. -/
def texts (ts : List (List Nat)) : Build Final := do
  grow 1 0
  textTree ((ts.map List.length).foldl max 0 + 1) ts
  return .plain

end Footprint

open Footprint

/-- The text of a pattern that is nothing else. -/
def text? : Pattern → Option (List Char)
  | chars cs => some cs
  | _ => none

/-- Any of the texts, read in the direction. -/
def textsIn (backwards : Bool) (ts : List (List Char)) : Build Final :=
  texts (ts.map fun t => if backwards then (Encoding.bytes t).reverse else Encoding.bytes t)

mutual

/-- The states of a pattern that is read forwards or backwards. Backwards no groups are marked. -/
def build (backwards : Bool) : Pattern → Build Final
  | empty | anchor _ => do
    grow 1 0
    return .plain
  | chars cs => do
    grow (Encoding.bytes cs).length 0
    return .plain
  | set s =>
    if s.isAscii then ranges s.ranges.length
    else if backwards then backwardSet s else forwardSet s
  | seq ps => chain (if backwards then (buildAll backwards ps).reverse else buildAll backwards ps)
  | alt ps =>
    match ps.mapM text? with
    | some ts => textsIn backwards ts
    | none => fork (buildAll backwards ps)
  | group _ p =>
    if backwards then build backwards p
    else do
      grow 1 0
      leave (← build backwards p)
      grow 1 0
      return .plain
  | times p least greatest _ =>
    counted (build backwards p) least greatest (p.leastLength.all (· == 0))

def buildAll (backwards : Bool) : List Pattern → List (Build Final)
  | [] => []
  | p :: ps => build backwards p :: buildAll backwards ps

end

/-- The automaton of a pattern. Unless a match has to begin where the search begins, it begins with
a loop over any bytes. -/
def automaton (backwards : Bool) (p : Pattern) : Build Unit := do
  let fixed := if backwards then p.closesText else p.opensText
  if fixed then grow 1 0 else grow 3 (stepSize + 2 * linkSize)
  leave (← build backwards (if backwards then p else .group 0 p))
  grow 1 0

/-- Whether both automata of a pattern keep within their memory. -/
def isSmall (p : Pattern) : Bool :=
  ((automaton false p).run ⟨0, 0⟩).isSome && ((automaton true p).run ⟨0, 0⟩).isSome

end Criteria.Pattern
