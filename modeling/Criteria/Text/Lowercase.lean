import Criteria.Text.Blank
import Criteria.Text.CaseTable

/-!
Small letters. Names are matched, and texts compared, by their small-letter forms. The map is the
full one of the character standard: the dotted capital I becomes two characters, and a capital sigma
that ends a word becomes the final sigma.
-/
namespace Criteria.Text

namespace CaseRun

def contains (r : CaseRun) (n : Nat) : Bool :=
  r.first ≤ n && n ≤ r.last && (n - r.first) % r.stride == 0

end CaseRun

/-- The small letters of one character on its own. -/
def lowerChar (c : Char) : List Char :=
  if c.toNat < 128 then [c.toLower]
  else if c.toNat = 0x130 then ['i', Char.ofNat 0x307]
  else match caseRuns.find? (·.contains c.toNat) with
    | some r => [Char.ofNat (c.toNat + r.shift).toNat]
    | none => [c]

def isCased (c : Char) : Bool :=
  if c.toNat < 128 then c.isAlpha else inRanges casedRanges c

def isCaseIgnorable (c : Char) : Bool :=
  if c.toNat < 128 then c.toNat = 39 || c = '.' || c = ':' || c = '^' || c.toNat = 96
  else inRanges caseIgnorableRanges c

/-- Whether a cased character comes first once the case-ignorable ones are passed over. -/
def meetsCased (cs : List Char) : Bool :=
  ((cs.dropWhile isCaseIgnorable).head?.map isCased).getD false

/-- The small form of a capital sigma: a final one after a letter and before none. -/
def lowerSigma (before after : List Char) : Char :=
  if meetsCased before && !meetsCased after then 'ς' else 'σ'

/-- Lower-cases the characters that follow `before`, which is given last character first. -/
def lowerAfter (before : List Char) : List Char → List Char
  | [] => []
  | c :: rest =>
    (if c = 'Σ' then [lowerSigma before rest] else lowerChar c) ++ lowerAfter (c :: before) rest

def lowerList (cs : List Char) : List Char := lowerAfter [] cs

@[simp] theorem lowerList_nil : lowerList [] = [] := rfl

def lowercase (s : String) : String := String.ofList (lowerList s.toList)

/-- Equality up to the case of ASCII letters. -/
def eqIgnoringAsciiCase (s t : String) : Bool :=
  s.toList.map Char.toLower == t.toList.map Char.toLower

end Criteria.Text
