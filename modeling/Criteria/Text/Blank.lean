/-!
White space. Names, literals and parameters are trimmed of it, and it separates the tokens of a
condition.
-/
namespace Criteria.Text

/-- Whether the code point of `c` lies in one of the given closed ranges. -/
def inRanges (ranges : List (Nat × Nat)) (c : Char) : Bool :=
  ranges.any fun r => r.1 ≤ c.toNat && c.toNat ≤ r.2

/-- The property White_Space of the character standard. -/
def blankRanges : List (Nat × Nat) :=
  [(9, 0xd), (0x20, 0x20), (0x85, 0x85), (0xa0, 0xa0), (0x1680, 0x1680), (0x2000, 0x200a),
   (0x2028, 0x2029), (0x202f, 0x202f), (0x205f, 0x205f), (0x3000, 0x3000)]

def isBlank (c : Char) : Bool := inRanges blankRanges c

/-- Removes white space from both ends. -/
def trim (cs : List Char) : List Char :=
  ((cs.dropWhile isBlank).reverse.dropWhile isBlank).reverse

@[simp] theorem trim_nil : trim [] = [] := rfl

/-- The text without the white space at its ends. -/
def trimmed (s : String) : String := String.ofList (trim s.toList)

end Criteria.Text
