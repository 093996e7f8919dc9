import Criteria.Text.EditionTable

/-!
The characters that an edition of the character standard knows: those that it assigned and those of
all editions before it.
-/
namespace Criteria.Text

namespace Edition

/-- The number, or the letter `v` and the digits of the number. -/
def hasName (e : Edition) (name : String) : Bool :=
  name == e.number || name.toList == 'v' :: e.number.toList.filter Char.isDigit

/-- The characters of the edition of a name. -/
def known? (name : String) : Option CharSet :=
  match editions.takeWhile (!·.hasName name), editions.dropWhile (!·.hasName name) with
  | _, [] => none
  | before, e :: _ => some (.ofRuns ((before ++ [e]).flatMap (·.runs)))

end Edition

end Criteria.Text
