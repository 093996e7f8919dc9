import Criteria.Text.CategoryTable

/-!
The general categories of characters and their groups, as sets that are found by name. The names are
in small letters without separators.
-/
namespace Criteria.Text

/-- A set of characters with its names. -/
structure NamedSet where
  names : List String
  set : CharSet

/-- The set of a name. -/
def NamedSet.find? (sets : List NamedSet) (name : String) : Option CharSet :=
  (sets.find? (·.names.contains name)).map (·.set)

def upperLetters : CharSet := .ofRuns upperLetterRuns
def lowerLetters : CharSet := .ofRuns lowerLetterRuns
def titleLetters : CharSet := .ofRuns titleLetterRuns
def modifierLetters : CharSet := .ofRuns modifierLetterRuns
def otherLetters : CharSet := .ofRuns otherLetterRuns
def casedLetters : CharSet := upperLetters ∪ lowerLetters ∪ titleLetters
def letters : CharSet := casedLetters ∪ modifierLetters ∪ otherLetters

def nonspacingMarks : CharSet := .ofRuns nonspacingMarkRuns
def spacingMarks : CharSet := .ofRuns spacingMarkRuns
def enclosingMarks : CharSet := .ofRuns enclosingMarkRuns
def marks : CharSet := nonspacingMarks ∪ spacingMarks ∪ enclosingMarks

def digits : CharSet := .ofRuns digitRuns
def letterNumbers : CharSet := .ofRuns letterNumberRuns
def otherNumbers : CharSet := .ofRuns otherNumberRuns
def numbers : CharSet := digits ∪ letterNumbers ∪ otherNumbers

def connectorPunctuation : CharSet := .ofRuns connectorPunctuationRuns
def dashPunctuation : CharSet := .ofRuns dashPunctuationRuns
def openPunctuation : CharSet := .ofRuns openPunctuationRuns
def closePunctuation : CharSet := .ofRuns closePunctuationRuns
def initialPunctuation : CharSet := .ofRuns initialPunctuationRuns
def finalPunctuation : CharSet := .ofRuns finalPunctuationRuns
def otherPunctuation : CharSet := .ofRuns otherPunctuationRuns
def punctuation : CharSet :=
  connectorPunctuation ∪ dashPunctuation ∪ openPunctuation ∪ closePunctuation ∪
    initialPunctuation ∪ finalPunctuation ∪ otherPunctuation

def mathSymbols : CharSet := .ofRuns mathSymbolRuns
def currencySymbols : CharSet := .ofRuns currencySymbolRuns
def modifierSymbols : CharSet := .ofRuns modifierSymbolRuns
def otherSymbols : CharSet := .ofRuns otherSymbolRuns
def symbols : CharSet := mathSymbols ∪ currencySymbols ∪ modifierSymbols ∪ otherSymbols

def spaceSeparators : CharSet := .ofRuns spaceSeparatorRuns
def lineSeparators : CharSet := .ofRuns lineSeparatorRuns
def paragraphSeparators : CharSet := .ofRuns paragraphSeparatorRuns
def separators : CharSet := spaceSeparators ∪ lineSeparators ∪ paragraphSeparators

def controls : CharSet := .ofRuns controlRuns
def formats : CharSet := .ofRuns formatRuns
def privateUse : CharSet := .ofRuns privateUseRuns

/-- All characters that are assigned. -/
def assigned : CharSet :=
  letters ∪ marks ∪ numbers ∪ punctuation ∪ symbols ∪ separators ∪ controls ∪ formats ∪ privateUse

/-- All characters but the assigned ones. -/
def unassigned : CharSet := .diff (.diff .full assigned) (.range 0xd800 0xdfff)

/-- All that is neither seen nor a separator. -/
def others : CharSet := controls ∪ formats ∪ .range 0xd800 0xdfff ∪ privateUse ∪ unassigned

def categories : List NamedSet :=
  [⟨["lu", "uppercaseletter"], upperLetters⟩, ⟨["ll", "lowercaseletter"], lowerLetters⟩,
   ⟨["lt", "titlecaseletter"], titleLetters⟩, ⟨["lc", "casedletter"], casedLetters⟩,
   ⟨["lm", "modifierletter"], modifierLetters⟩, ⟨["lo", "otherletter"], otherLetters⟩,
   ⟨["l", "letter"], letters⟩, ⟨["mn", "nonspacingmark"], nonspacingMarks⟩,
   ⟨["mc", "spacingmark"], spacingMarks⟩, ⟨["me", "enclosingmark"], enclosingMarks⟩,
   ⟨["m", "mark", "combiningmark"], marks⟩, ⟨["nd", "decimalnumber", "digit"], digits⟩,
   ⟨["nl", "letternumber"], letterNumbers⟩, ⟨["no", "othernumber"], otherNumbers⟩,
   ⟨["n", "number"], numbers⟩, ⟨["pc", "connectorpunctuation"], connectorPunctuation⟩,
   ⟨["pd", "dashpunctuation"], dashPunctuation⟩, ⟨["ps", "openpunctuation"], openPunctuation⟩,
   ⟨["pe", "closepunctuation"], closePunctuation⟩,
   ⟨["pi", "initialpunctuation"], initialPunctuation⟩,
   ⟨["pf", "finalpunctuation"], finalPunctuation⟩, ⟨["po", "otherpunctuation"], otherPunctuation⟩,
   ⟨["p", "punctuation", "punct"], punctuation⟩, ⟨["sm", "mathsymbol"], mathSymbols⟩,
   ⟨["sc", "currencysymbol"], currencySymbols⟩, ⟨["sk", "modifiersymbol"], modifierSymbols⟩,
   ⟨["so", "othersymbol"], otherSymbols⟩, ⟨["s", "symbol"], symbols⟩,
   ⟨["zs", "spaceseparator"], spaceSeparators⟩, ⟨["zl", "lineseparator"], lineSeparators⟩,
   ⟨["zp", "paragraphseparator"], paragraphSeparators⟩, ⟨["z", "separator"], separators⟩,
   ⟨["cc", "control", "cntrl"], controls⟩, ⟨["cf", "format"], formats⟩,
   ⟨["co", "privateuse"], privateUse⟩, ⟨["cn", "unassigned"], unassigned⟩,
   ⟨["c", "other"], others⟩, ⟨["any"], .full⟩, ⟨["assigned"], .complement unassigned⟩,
   ⟨["ascii"], .range 0 127⟩]

end Criteria.Text
