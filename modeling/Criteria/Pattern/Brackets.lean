import Criteria.Pattern.Escape

/-!
Classes of characters in brackets: single characters, ranges, classes by name or by escape, and
classes inside each other, which may be intersected or taken away from one another.
-/
namespace Criteria.Pattern

open Text (CharSet)

/-- The named classes of ASCII characters. -/
def namedClasses : List (String × CharSet) :=
  [("alnum", .ofRanges [⟨48, 57⟩, ⟨65, 90⟩, ⟨97, 122⟩]), ("alpha", .ofRanges [⟨65, 90⟩, ⟨97, 122⟩]),
   ("ascii", .range 0 127), ("blank", .ofCodes [9, 32]), ("cntrl", .ofRanges [⟨0, 31⟩, ⟨127, 127⟩]),
   ("digit", .range 48 57), ("graph", .range 33 126), ("lower", .range 97 122),
   ("print", .range 32 126),
   ("punct", .ofRanges [⟨33, 47⟩, ⟨58, 64⟩, ⟨91, 96⟩, ⟨123, 126⟩]),
   ("space", .ofRanges [⟨9, 13⟩, ⟨32, 32⟩]), ("upper", .range 65 90),
   ("word", .ofRanges [⟨48, 57⟩, ⟨65, 90⟩, ⟨95, 95⟩, ⟨97, 122⟩]),
   ("xdigit", .ofRanges [⟨48, 57⟩, ⟨65, 70⟩, ⟨97, 102⟩])]

/-- A named class after its bracket, if there is one, and whether its complement is meant. -/
def namedClass? (cs : List Char) : Option (CharSet × Bool × List Char) :=
  match cs with
  | ':' :: rest =>
    let (negated, rest) := match rest with
      | '^' :: r => (true, r)
      | r => (false, r)
    let name := String.ofList (rest.takeWhile (· != ':'))
    match rest.dropWhile (· != ':'), namedClasses.find? (·.1 == name) with
    | ':' :: ']' :: rest, some (_, s) => some (s, negated, rest)
    | _, _ => none
  | _ => none

/-- The operations between two classes. -/
inductive SetOperator where
  | inter
  | diff
  | symmDiff

def SetOperator.apply : SetOperator → CharSet → CharSet → CharSet
  | inter, s, t => .inter s t
  | diff, s, t => .diff s t
  | symmDiff, s, t => .symmDiff s t

/-- Items of a class: what they hold together, how many they are, and how deep the deepest of them
is nested. -/
structure ClassItems where
  set : CharSet := .empty
  count : Nat := 0
  depth : Nat := 0

namespace ClassItems

def push (items : ClassItems) (s : CharSet) (depth : Nat) : ClassItems :=
  ⟨.union items.set s, items.count + 1, max items.depth depth⟩

/-- How deep the items are nested. Several items are a level of their own. -/
def nesting (items : ClassItems) : Nat := if 1 < items.count then items.depth + 1 else items.depth

end ClassItems

/-- A class on the left of an operation whose right side is being read, with its nesting. -/
abbrev Pending := Option (SetOperator × CharSet × Nat)

/-- Ends the right side of the operation, if there is one. -/
def finish (f : Flags) (pending : Pending) (items : ClassItems) : CharSet × Nat :=
  match pending with
  | none => (items.set, items.nesting)
  | some (op, left, depth) =>
    (op.apply (f.fold left) (f.fold items.set), max depth items.nesting + 1)

/-- A character or a class by escape. -/
def classItem (f : Flags) : List Char → Except Fault (Escape × List Char)
  | [] => .error .classUnclosed
  | '\\' :: rest => readEscape f rest
  | c :: rest => .ok (.char c, rest)

/-- The set of an item on its own. -/
def itemSet (f : Flags) : Escape → Except Fault CharSet
  | .char c => if f.unicode || c.toNat < 128 then .ok (.single c) else .error .classItem
  | .set s => .ok s
  | .anchor _ => .error .classItem

/-- An item, or a range from one character to another. A dash before the end of the class or before
another dash makes no range. -/
def classRange (f : Flags) (cs : List Char) : Except Fault (CharSet × List Char) :=
  (classItem f cs).bind fun (first, rest) =>
    match skipBlank f rest with
    | [] => .error .classUnclosed
    | '-' :: rest =>
      if peek f rest == some ']' || peek f rest == some '-' then
        (itemSet f first).map (·, '-' :: rest)
      else
        (classItem f (skipBlank f rest)).bind fun (last, rest) =>
          match first, last with
          | .char a, .char b =>
            if a.toNat ≤ b.toNat && (f.unicode || b.toNat < 128) then
              .ok (.range a.toNat b.toNat, rest)
            else .error .classRange
          | _, _ => .error .classRange
    | rest => (itemSet f first).map (·, rest)

/-- Dashes at the beginning of a class stand for themselves. -/
def leadingDashes (f : Flags) (items : ClassItems) : List Char → ClassItems × List Char
  | [] => (items, [])
  | c :: rest =>
    if c = '-' then leadingDashes f (items.push (.single '-') 0) (skipBlank f rest)
    else (items, c :: rest)
termination_by cs => cs.length
decreasing_by exact Nat.lt_succ_of_le (length_skipBlank_le f rest)

/-- Dashes at the beginning of a class, or else a closing bracket there, stand for themselves. -/
def leadingItems (f : Flags) (cs : List Char) : ClassItems × List Char :=
  match cs with
  | ']' :: rest => (ClassItems.push {} (.single ']') 0, skipBlank f rest)
  | cs => leadingDashes f {} cs

mutual

/-- A class after its opening bracket, with its nesting. -/
def classOpen (f : Flags) : Nat → List Char → Except Fault (CharSet × Nat × List Char)
  | 0, _ => .error .nesting
  | fuel + 1, cs =>
    let (negated, rest) := match skipBlank f cs with
      | '^' :: r => (true, skipBlank f r)
      | r => (false, r)
    let (items, rest) := leadingItems f rest
    (classBody f fuel none items rest).bind fun (s, depth, rest) =>
      (f.foldNegate negated s).map (·, depth + 1, rest)

/-- The rest of a class of which some items, and the left side of an operation, have been read. -/
def classBody (f : Flags) :
    Nat → Pending → ClassItems → List Char → Except Fault (CharSet × Nat × List Char)
  | 0, _, _, _ => .error .nesting
  | fuel + 1, pending, items, cs =>
    let operate (op : SetOperator) (rest : List Char) :=
      let (s, depth) := finish f pending items
      classBody f fuel (some (op, s, depth)) {} rest
    match skipBlank f cs with
    | [] => .error .classUnclosed
    | ']' :: rest =>
      let (s, depth) := finish f pending items
      .ok (s, depth, rest)
    | '[' :: rest =>
      match namedClass? rest with
      | some (s, negated, rest) =>
        (f.foldNegate negated s).bind fun s => classBody f fuel pending (items.push s 0) rest
      | none =>
        (classOpen f fuel rest).bind fun (s, depth, rest) =>
          classBody f fuel pending (items.push s depth) rest
    | '&' :: '&' :: rest => operate .inter rest
    | '-' :: '-' :: rest => operate .diff rest
    | '~' :: '~' :: rest => operate .symmDiff rest
    | rest =>
      (classRange f rest).bind fun (s, rest) => classBody f fuel pending (items.push s 0) rest

end

/-- A class after its opening bracket, with its nesting. -/
def readClass (f : Flags) (cs : List Char) : Except Fault (CharSet × Nat × List Char) :=
  classOpen f (2 * cs.length + 2) cs

end Criteria.Pattern
