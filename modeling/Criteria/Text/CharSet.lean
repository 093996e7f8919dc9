/-!
Sets of characters, held as ranges of code points. The ranges are in ascending order and neither
overlap nor touch, so that each set has one form; only across the surrogates, which are no
characters, two neighbouring ranges may be apart.
-/
namespace Criteria.Text

/-- The code points from `first` to `last`. -/
structure Range where
  first : Nat
  last : Nat
deriving DecidableEq

/-- The code points `first, first + stride, …, last`. -/
structure Run where
  first : Nat
  last : Nat
  stride : Nat

namespace Run

/-- The run as ranges. -/
def toRanges (r : Run) : List Range :=
  if r.stride = 1 then [⟨r.first, r.last⟩]
  else (List.range ((r.last - r.first) / r.stride + 1)).map fun i =>
    ⟨r.first + i * r.stride, r.first + i * r.stride⟩

end Run

/-- The code point of the next character. -/
def nextCode (n : Nat) : Nat := if n = 0xd7ff then 0xe000 else n + 1

/-- The code point of the character before. -/
def previousCode (n : Nat) : Nat := if n = 0xe000 then 0xd7ff else n - 1

def greatestCode : Nat := 0x10ffff

namespace Range

/-- The range between two code points, whichever of them comes first. -/
def between (a b : Nat) : Range := ⟨min a b, max a b⟩

/-- Puts a range in front of others of which none begins before it. -/
def absorb (r : Range) : List Range → List Range
  | [] => [r]
  | s :: rest =>
    if s.first ≤ r.last + 1 then absorb ⟨r.first, max r.last s.last⟩ rest else r :: s :: rest

/-- Whether one of the ranges, which are in order, holds the code point. -/
def anyContains (n : Nat) : List Range → Bool
  | [] => false
  | r :: rest => if n < r.first then false else n ≤ r.last || anyContains n rest

/-- The code points that lie in both lists. -/
def inter : List Range → List Range → List Range
  | [], _ | _, [] => []
  | a :: as, b :: bs =>
    let rest := if a.last ≤ b.last then inter as (b :: bs) else inter (a :: as) bs
    if max a.first b.first ≤ min a.last b.last then
      ⟨max a.first b.first, min a.last b.last⟩ :: rest
    else rest
termination_by as bs => as.length + bs.length

/-- The code points of the first list that do not lie in the second. -/
def diff : List Range → List Range → List Range
  | [], _ => []
  | as, [] => as
  | a :: as, b :: bs =>
    if b.last < a.first then diff (a :: as) bs
    else if a.last < b.first then a :: diff as (b :: bs)
    else
      let rest := if b.last < a.last then diff (⟨nextCode b.last, a.last⟩ :: as) bs
        else diff as (b :: bs)
      if a.first < b.first then ⟨a.first, previousCode b.first⟩ :: rest else rest
termination_by as bs => as.length + bs.length

/-- The gaps between neighbouring ranges and after the last one. Where two ranges meet at the
surrogates there is no character between them, and the gap takes in the two that meet. -/
def gaps : List Range → List Range
  | [] => []
  | [r] => if r.last < greatestCode then [⟨nextCode r.last, greatestCode⟩] else []
  | r :: s :: rest => between (nextCode r.last) (previousCode s.first) :: gaps (s :: rest)

end Range

structure CharSet where
  ranges : List Range
deriving DecidableEq

namespace CharSet

/-- The set of ranges that are in order of their beginnings. -/
def ofOrdered (rs : List Range) : CharSet := ⟨rs.foldr Range.absorb []⟩

def ofRanges (rs : List Range) : CharSet :=
  ofOrdered (rs.mergeSort fun r s => r.first ≤ s.first)

def ofRuns (rs : List Run) : CharSet := ofRanges (rs.flatMap Run.toRanges)

def ofCodes (ns : List Nat) : CharSet := ofRanges (ns.map fun n => ⟨n, n⟩)

def range (first last : Nat) : CharSet := ⟨[⟨first, last⟩]⟩

def single (c : Char) : CharSet := range c.toNat c.toNat

def empty : CharSet := ⟨[]⟩

def full : CharSet := range 0 greatestCode

def containsCode (s : CharSet) (n : Nat) : Bool := Range.anyContains n s.ranges

def contains (s : CharSet) (c : Char) : Bool := s.containsCode c.toNat

def isEmpty (s : CharSet) : Bool := s.ranges.isEmpty

def isAscii (s : CharSet) : Bool := s.ranges.all (·.last < 128)

/-- The only character of the set. -/
def only? (s : CharSet) : Option Char :=
  match s.ranges with
  | [r] => if r.first = r.last then some (Char.ofNat r.first) else none
  | _ => none

def union (s t : CharSet) : CharSet :=
  ofOrdered (s.ranges.merge t.ranges fun r s => r.first ≤ s.first)

def inter (s t : CharSet) : CharSet := ⟨Range.inter s.ranges t.ranges⟩

def diff (s t : CharSet) : CharSet := ⟨Range.diff s.ranges t.ranges⟩

def symmDiff (s t : CharSet) : CharSet := diff (union s t) (inter s t)

def complement (s : CharSet) : CharSet :=
  match s.ranges with
  | [] => full
  | r :: rest =>
    ⟨if r.first = 0 then Range.gaps (r :: rest)
      else ⟨0, previousCode r.first⟩ :: Range.gaps (r :: rest)⟩

instance : Union CharSet := ⟨union⟩

@[simp] theorem contains_empty (c : Char) : empty.contains c = false := rfl

@[simp] theorem contains_single (c d : Char) : (single c).contains d = decide (d = c) := by
  by_cases h : d = c
  · subst h
    simp [single, range, contains, containsCode, Range.anyContains]
  · have hne : d.toNat ≠ c.toNat := fun hn => h (Char.toNat_inj.1 hn)
    simp only [single, range, contains, containsCode, Range.anyContains, h, decide_false]
    split
    · rfl
    · simp only [Bool.or_false, decide_eq_false_iff_not]
      omega

end CharSet

end Criteria.Text
