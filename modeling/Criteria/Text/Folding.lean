import Criteria.Text.CharSet
import Criteria.Text.FoldTable

/-!
Sets of characters without regard to case: with each character they hold all that are the same but
for their case.
-/
namespace Criteria.Text

/-- Each character that is not the first of those that are the same but for their case, with the
first. -/
def foldPairs : List (Nat × Nat) :=
  foldRuns.flatMap fun r =>
    (List.range ((r.last - r.first) / r.stride + 1)).map fun i =>
      let code := r.first + i * r.stride
      (code, ((code : Int) + r.shift).toNat)

/-- All characters that are the same as another one but for their case. -/
def foldable : CharSet := .ofCodes (foldPairs.flatMap fun p => [p.1, p.2])

/-- The ASCII letters, small and capital. -/
def asciiLetterPairs : List (Nat × Nat) := (List.range 26).map fun i => (97 + i, 65 + i)

namespace CharSet

/-- The set with the firsts of its characters, and then with all that share a first. -/
def closeUnder (pairs : List (Nat × Nat)) (s : CharSet) : CharSet :=
  let t := s ∪ ofCodes (pairs.filterMap fun p => if s.containsCode p.1 then some p.2 else none)
  t ∪ ofCodes (pairs.filterMap fun p => if t.containsCode p.2 then some p.1 else none)

/-- The set with all variants in case of its characters. -/
def folded : CharSet → CharSet := closeUnder foldPairs

/-- The set with the variants in case of its ASCII letters. -/
def foldedAscii : CharSet → CharSet := closeUnder asciiLetterPairs

end CharSet

end Criteria.Text
