import Criteria.Text.Property

/-!
Patterns in their normal form. Patterns are made by the functions `ofSet`, `repeated`, `seqOf` and
`altOf`, which leave out what matches nothing but the empty text, join characters that follow each
other, and draw a common beginning out of alternatives.
-/
namespace Criteria

open Text (CharSet)

/-- A condition on a place in a text: on what stands in front of it and behind it. The conditions on
words know all characters or, if `ascii` is set, those of ASCII alone. -/
inductive Anchor where
  | textStart
  | textEnd
  | lineStart
  | lineEnd
  | crlfStart
  | crlfEnd
  | boundary (ascii : Bool)
  | noBoundary (ascii : Bool)
  | wordStart (ascii : Bool)
  | wordEnd (ascii : Bool)
  | noWordBefore (ascii : Bool)
  | noWordAfter (ascii : Bool)
deriving DecidableEq

namespace Anchor

/-- Whether a neighbour is part of a word. -/
def besideWord (ascii : Bool) (c : Option Char) : Bool :=
  c.any fun c => if ascii then c.isAlphanum || c = '_' else Text.isWordChar c

/-- Whether the condition holds between two neighbours. -/
def holds (a : Anchor) (before after : Option Char) : Bool :=
  match a with
  | textStart => before.isNone
  | textEnd => after.isNone
  | lineStart => before.isNone || before == some '\n'
  | lineEnd => after.isNone || after == some '\n'
  | crlfStart => before.isNone || before == some '\n' || before == some '\r' && after != some '\n'
  | crlfEnd => after.isNone || after == some '\r' || after == some '\n' && before != some '\r'
  | boundary ascii => besideWord ascii before != besideWord ascii after
  | noBoundary ascii => besideWord ascii before == besideWord ascii after
  | wordStart ascii => !besideWord ascii before && besideWord ascii after
  | wordEnd ascii => besideWord ascii before && !besideWord ascii after
  | noWordBefore ascii => !besideWord ascii before
  | noWordAfter ascii => !besideWord ascii after

end Anchor

inductive Pattern where
  | empty
  /-- Characters one after another. -/
  | chars (cs : List Char)
  /-- One character of a set. -/
  | set (s : CharSet)
  | anchor (a : Anchor)
  | seq (ps : List Pattern)
  | alt (ps : List Pattern)
  | group (number : Nat) (p : Pattern)
  /-- At least `least` and, if there is a limit, at most `greatest` times. -/
  | times (p : Pattern) (least : Nat) (greatest : Option Nat) (lazy : Bool)

namespace Pattern

mutual

/-- Whether two patterns are written alike. -/
def same : Pattern → Pattern → Bool
  | empty, empty => true
  | chars cs, chars ds => cs == ds
  | set s, set t => s == t
  | anchor a, anchor b => a == b
  | seq ps, seq qs => sameAll ps qs
  | alt ps, alt qs => sameAll ps qs
  | group m p, group n q => m == n && same p q
  | times p least greatest lazy, times q least' greatest' lazy' =>
    least == least' && greatest == greatest' && lazy == lazy' && same p q
  | _, _ => false

def sameAll : List Pattern → List Pattern → Bool
  | [], [] => true
  | p :: ps, q :: qs => same p q && sameAll ps qs
  | _, _ => false

end

/-! How long a match is at least and at most, if the pattern can match and if there is a limit. -/

mutual

def leastLength : Pattern → Option Nat
  | empty | anchor _ => some 0
  | chars cs => some cs.length
  | set s => if s.isEmpty then none else some 1
  | seq ps => leastSum ps
  | alt ps => leastOfAny ps
  | group _ p => leastLength p
  | times p least _ _ => (leastLength p).map (· * least)

def leastSum : List Pattern → Option Nat
  | [] => some 0
  | p :: ps => (leastLength p).bind fun m => (leastSum ps).map (m + ·)

def leastOfAny : List Pattern → Option Nat
  | [] => none
  | [p] => leastLength p
  | p :: ps => (leastLength p).bind fun m => (leastOfAny ps).map (min m)

end

mutual

def greatestLength : Pattern → Option Nat
  | empty | anchor _ => some 0
  | chars cs => some cs.length
  | set s => if s.isEmpty then none else some 1
  | seq ps => greatestSum ps
  | alt ps => greatestOfAny ps
  | group _ p => greatestLength p
  | times p _ greatest _ => greatest.bind fun n => (greatestLength p).map (· * n)

def greatestSum : List Pattern → Option Nat
  | [] => some 0
  | p :: ps => (greatestLength p).bind fun m => (greatestSum ps).map (m + ·)

def greatestOfAny : List Pattern → Option Nat
  | [] => none
  | [p] => greatestLength p
  | p :: ps => (greatestLength p).bind fun m => (greatestOfAny ps).map (max m)

end

/-- Whether all matches are of the empty text. -/
def isBlank (p : Pattern) : Bool := p.greatestLength == some 0

/-- A character of a set. A set of one character is that character. -/
def ofSet (s : CharSet) : Pattern :=
  match s.only? with
  | some c => chars [c]
  | none => set s

/-- A repetition. What matches the empty text alone need not be repeated more than once. -/
def repeated (p : Pattern) (least : Nat) (greatest : Option Nat) (lazy : Bool) : Pattern :=
  let (least, greatest) :=
    if p.isBlank then (min least 1, some (min (greatest.getD 1) 1)) else (least, greatest)
  if greatest = some 0 then empty
  else if least = 1 ∧ greatest = some 1 then p
  else times p least greatest lazy

/-- The parts of a sequence. -/
def parts : Pattern → List Pattern
  | empty => []
  | seq ps => ps
  | p => [p]

/-- Puts a pattern in front of a sequence and joins characters that meet. -/
def prepend (p : Pattern) (ps : List Pattern) : List Pattern :=
  match p, ps with
  | chars cs, chars ds :: ps => chars (cs ++ ds) :: ps
  | p, ps => p :: ps

/-- Patterns one after another. -/
def seqOf (ps : List Pattern) : Pattern :=
  match (ps.flatMap parts).foldr prepend [] with
  | [] => empty
  | [p] => p
  | ps => seq ps

/-- The branches of an alternative. -/
def branches : Pattern → List Pattern
  | alt ps => ps
  | p => [p]

def single? : Pattern → Option Char
  | chars [c] => some c
  | _ => none

def set? : Pattern → Option CharSet
  | set s => some s
  | _ => none

/-- The parts that two sequences begin with. -/
def commonParts : List Pattern → List Pattern → List Pattern
  | p :: ps, q :: qs => if same p q then p :: commonParts ps qs else []
  | _, _ => []

def seq? : Pattern → Option (List Pattern)
  | seq ps => some ps
  | _ => none

/-- Any of the patterns. Characters or sets alone make up a set, and what all sequences begin with
is drawn out; `fuel` bounds how often that is done. -/
def altWith : Nat → List Pattern → Pattern
  | 0, ps => alt ps
  | fuel + 1, ps =>
    match ps.flatMap branches with
    | [] => set .empty
    | [p] => p
    | p :: ps =>
      match (p :: ps).mapM single?, (p :: ps).mapM set?, p.seq?, ps.mapM seq? with
      | some cs, _, _, _ => ofSet (.ofCodes (cs.map Char.toNat))
      | _, some ss, _, _ => ofSet (ss.foldl .union .empty)
      | _, _, some first, some others =>
        let front := others.foldl commonParts first
        if front.isEmpty then alt (p :: ps)
        else
          let tails := (first :: others).map fun ps => seqOf (ps.drop front.length)
          seqOf (front ++ [altWith fuel tails])
      | _, _, _, _ => alt (p :: ps)

def altOf (ps : List Pattern) : Pattern := altWith (ps.length + 1) ps

mutual

/-- Whether a match can begin at the beginning of the text alone. -/
def opensText : Pattern → Bool
  | anchor a => a == .textStart
  | seq ps => firstOpensText ps
  | alt ps => allOpenText ps
  | group _ p => opensText p
  | times p least _ _ => 0 < least && opensText p
  | empty | chars _ | set _ => false

def firstOpensText : List Pattern → Bool
  | [] => false
  | p :: ps => opensText p || p.isBlank && firstOpensText ps

def allOpenText : List Pattern → Bool
  | [] => true
  | p :: ps => opensText p && allOpenText ps

end

mutual

/-- Whether a match can end at the end of the text alone. -/
def closesText : Pattern → Bool
  | anchor a => a == .textEnd
  | seq ps => lastClosesText ps
  | alt ps => allCloseText ps
  | group _ p => closesText p
  | times p least _ _ => 0 < least && closesText p
  | empty | chars _ | set _ => false

def lastClosesText : List Pattern → Bool
  | [] => false
  | p :: ps => lastClosesText ps || ps.all isBlank && closesText p

def allCloseText : List Pattern → Bool
  | [] => true
  | p :: ps => closesText p && allCloseText ps

end

end Pattern

end Criteria
