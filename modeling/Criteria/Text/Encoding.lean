import Criteria.Text.CharSet

/-!
The bytes of characters in UTF-8. The characters of a range are given by sequences of ranges of
bytes: a character lies in the range if its bytes lie, one by one, in the ranges of one sequence.
-/
namespace Criteria.Text

/-- A range of bytes. -/
structure ByteRange where
  first : Nat
  last : Nat
deriving DecidableEq

namespace Encoding

/-- The six-bit digits of the numbers from `low` to `high`, as sequences of ranges of digits, in
order. The numbers have `count` digits behind the first one. -/
def digitRanges : Nat → Nat → Nat → List (List ByteRange)
  | 0, low, high => [[⟨low, high⟩]]
  | count + 1, low, high =>
    let unit := Nat.pow 64 (count + 1)
    let a := low / unit
    let b := high / unit
    if a = b then (digitRanges count (low % unit) (high % unit)).map (⟨a, a⟩ :: ·)
    else
      let fullStart := low % unit == 0
      let fullEnd := high % unit == unit - 1
      let start := if fullStart then []
        else (digitRanges count (low % unit) (unit - 1)).map (⟨a, a⟩ :: ·)
      let stop := if fullEnd then []
        else (digitRanges count 0 (high % unit)).map (⟨b, b⟩ :: ·)
      let first := if fullStart then a else a + 1
      let last := if fullEnd then b else b - 1
      let middle := if first ≤ last then
          [⟨first, last⟩ :: List.replicate (count + 1) ⟨0, 63⟩]
        else []
      start ++ middle ++ stop

/-- The digits as bytes, of which the first one bears the mark. -/
def toBytes (mark : Nat) : List ByteRange → List ByteRange
  | [] => []
  | r :: rest =>
    ⟨mark + r.first, mark + r.last⟩ :: rest.map fun r => ⟨0x80 + r.first, 0x80 + r.last⟩

/-- The code points whose characters have the same number of bytes: the first and the last of them,
how many bytes follow the first byte, and its mark. -/
def blocks : List (Nat × Nat × Nat × Nat) :=
  [(0, 0x7f, 0, 0), (0x80, 0x7ff, 1, 0xc0), (0x800, 0xd7ff, 2, 0xe0), (0xe000, 0xffff, 2, 0xe0),
   (0x10000, 0x10ffff, 3, 0xf0)]

/-- The byte sequences of the characters of a range, in order. -/
def rangeSequences (r : Range) : List (List ByteRange) :=
  blocks.flatMap fun (first, last, count, mark) =>
    if max first r.first ≤ min last r.last then
      (digitRanges count (max first r.first) (min last r.last)).map (toBytes mark)
    else []

/-- The byte sequences of the characters of a set, in order. -/
def sequences (s : CharSet) : List (List ByteRange) := s.ranges.flatMap rangeSequences

/-- The bytes of a text. -/
def bytes (cs : List Char) : List Nat :=
  (String.ofList cs).toUTF8.toList.map UInt8.toNat

end Encoding

end Criteria.Text
