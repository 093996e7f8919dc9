import Criteria.Piece

/-!
Numbers of expressions. Every group that is opened and every clause that is begun takes the next
number, beginning with one, also if it is dropped later on. The numbers of those that remain are
listed in the order in which the expressions are written out.
-/
namespace Criteria

/-- The numbers given so far. -/
structure Numbering where
  next : Nat := 1
  /-- Numbers within open groups, each group's own first, the innermost group first. -/
  frames : List (List Nat) := []
  root : List Nat := []

namespace Numbering

/-- Puts numbers at the end of the innermost open list. -/
def push (n : Numbering) (numbers : List Nat) : Numbering :=
  match n.frames with
  | [] => { n with root := n.root ++ numbers }
  | f :: fs => { n with frames := (f ++ numbers) :: fs }

/-- Closes the innermost group. One that holds no number but its own is dropped. -/
def closeGroup (n : Numbering) : Numbering :=
  match n.frames with
  | [] => n
  | f :: fs => if f.length ≤ 1 then { n with frames := fs } else { n with frames := fs }.push f

def step (n : Numbering) : Piece → Numbering
  | .opening => { n with next := n.next + 1, frames := [n.next] :: n.frames }
  | .closing => n.closeGroup
  | .clause _ => { n.push [n.next] with next := n.next + 1 }
  | .malformed _ _ _ => { n with next := n.next + 1 }
  | _ => n

/-- The numbers of the expressions of a list of tokens. -/
def ofTokens (v : Vocabulary) (tokens : List String) : List Nat :=
  ((Piece.scan v tokens).foldl (fun (n : Numbering) p => n.step p.1) {}).root

end Numbering

end Criteria
