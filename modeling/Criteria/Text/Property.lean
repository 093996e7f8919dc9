import Criteria.Text.Blank
import Criteria.Text.Category
import Criteria.Text.Folding
import Criteria.Text.PropertyTable

/-!
Properties that a character has or has not. Most of them follow from the general categories and a
few characters besides. The names are in small letters without separators.
-/
namespace Criteria.Text

def blanks : CharSet := .ofRanges (blankRanges.map fun r => ⟨r.1, r.2⟩)
def patternBlanks : CharSet := .ofRuns patternBlankRuns
def patternSyntax : CharSet := .ofRuns patternSyntaxRuns

def lowercaseSet : CharSet := lowerLetters ∪ .ofRuns otherLowercaseRuns
def uppercaseSet : CharSet := upperLetters ∪ .ofRuns otherUppercaseRuns
def cased : CharSet := lowercaseSet ∪ uppercaseSet ∪ titleLetters
def otherAlphabetic : CharSet := .ofRuns otherAlphabeticRuns
def alphabetic : CharSet := cased ∪ modifierLetters ∪ otherLetters ∪ letterNumbers ∪ otherAlphabetic

def otherMath : CharSet := .ofRuns otherMathRuns
def otherGraphemeExtend : CharSet := .ofRuns otherGraphemeExtendRuns

/-- Characters that extend the one before them. -/
def graphemeExtend : CharSet := nonspacingMarks ∪ enclosingMarks ∪ otherGraphemeExtend

/-- Characters that show something on their own. -/
def graphemeBase : CharSet :=
  .diff (letters ∪ marks ∪ numbers ∪ punctuation ∪ symbols ∪ spaceSeparators) graphemeExtend

def prependedMarks : CharSet := .ofRuns prependedMarkRuns
def variationSelectors : CharSet := .ofRuns variationSelectorRuns
def otherDefaultIgnorable : CharSet := .ofRuns otherDefaultIgnorableRuns

/-- Characters that are not shown by programs that do not know them. -/
def defaultIgnorable : CharSet :=
  .diff (otherDefaultIgnorable ∪ formats ∪ variationSelectors)
    (.ofRuns annotationRuns ∪ prependedMarks ∪ blanks)

/-- Characters between the parts of a word: a colon, a point or the like. -/
def midLetters : CharSet :=
  .ofCodes [0x3a, 0xb7, 0x387, 0x55f, 0x5f4, 0x2027, 0xfe13, 0xfe55, 0xff1a]

/-- Characters between the parts of a word or of a number. -/
def midNumLets : CharSet := .ofCodes [0x2e, 0x2018, 0x2019, 0x2024, 0xfe52, 0xff07, 0xff0e]

/-- Characters that are passed over where the case of a neighbour matters. -/
def caseIgnorable : CharSet :=
  nonspacingMarks ∪ enclosingMarks ∪ formats ∪ modifierLetters ∪
    modifierSymbols ∪ midLetters ∪ midNumLets ∪ .range 0x27 0x27

def changesWhenLowercased : CharSet :=
  .inter (uppercaseSet ∪ titleLetters) foldable ∪ .range 0x130 0x130

def changesWhenUppercased : CharSet :=
  .inter (lowercaseSet ∪ titleLetters) foldable ∪ .ofRuns composedSmallRuns

/-- The small letters of Georgian, which do not take a capital at the beginning of a word. -/
def georgianLetters : CharSet := .ofRanges [⟨0x10d0, 0x10fa⟩, ⟨0x10fd, 0x10ff⟩]

def changesWhenTitlecased : CharSet :=
  .diff changesWhenUppercased (titleLetters ∪ georgianLetters) ∪
    .ofCodes [0x1c4, 0x1c7, 0x1ca, 0x1f1]

/-- Characters that others stand for where case does not matter. In Cherokee the capitals stand for
the small letters. -/
def changesWhenCasefolded : CharSet :=
  .diff changesWhenLowercased (.range 0x13a0 0x13f5) ∪ .ofRuns smallFormRuns

def otherIdStart : CharSet := .ofRuns otherIdStartRuns
def otherIdContinue : CharSet := .ofRuns otherIdContinueRuns

def idStart : CharSet :=
  .diff (letters ∪ letterNumbers ∪ otherIdStart) (patternSyntax ∪ patternBlanks)

def idContinue : CharSet :=
  .diff (idStart ∪ marks ∪ digits ∪ connectorPunctuation ∪ otherIdContinue)
    (enclosingMarks ∪ patternSyntax ∪ patternBlanks)

def hexDigits : CharSet := .ofRuns hexDigitRuns
def idCompatMathStart : CharSet := .ofRuns idCompatMathStartRuns
def unifiedIdeographs : CharSet := .ofRuns unifiedIdeographRuns
def ideographs : CharSet := unifiedIdeographs ∪ .ofRuns otherIdeographicRuns
def joinControls : CharSet := .ofRuns joinControlRuns
def sentenceTerminals : CharSet := .ofRuns sentenceTerminalRuns
def emojiModifiers : CharSet := .ofRuns emojiModifierRuns
def regionalIndicators : CharSet := .ofRuns regionalIndicatorRuns

def properties : List NamedSet :=
  [⟨["alphabetic", "alpha"], alphabetic⟩,
   ⟨["asciihexdigit", "ahex"], .inter hexDigits (.range 0 127)⟩,
   ⟨["bidicontrol", "bidic"], .ofRuns bidiControlRuns⟩,
   ⟨["bidimirrored", "bidim"], .ofRuns bidiMirroredRuns⟩,
   ⟨["cased"], cased⟩,
   ⟨["caseignorable", "ci"], caseIgnorable⟩,
   ⟨["changeswhencasefolded", "cwcf"], changesWhenCasefolded⟩,
   ⟨["changeswhencasemapped", "cwcm"],
    changesWhenLowercased ∪ changesWhenUppercased ∪ changesWhenTitlecased⟩,
   ⟨["changeswhenlowercased", "cwl"], changesWhenLowercased⟩,
   ⟨["changeswhentitlecased", "cwt"], changesWhenTitlecased⟩,
   ⟨["changeswhenuppercased", "cwu"], changesWhenUppercased⟩,
   ⟨["dash"], dashPunctuation ∪ .ofRuns otherDashRuns⟩,
   ⟨["defaultignorablecodepoint", "di"], defaultIgnorable⟩,
   ⟨["deprecated", "dep"], .ofRuns deprecatedRuns⟩,
   ⟨["diacritic", "dia"], .ofRuns diacriticRuns⟩,
   ⟨["emoji"], .ofRuns emojiRuns⟩,
   ⟨["emojicomponent", "ecomp"], .ofRuns emojiComponentRuns⟩,
   ⟨["emojimodifier", "emod"], emojiModifiers⟩,
   ⟨["emojimodifierbase", "ebase"], .ofRuns emojiModifierBaseRuns⟩,
   ⟨["emojipresentation", "epres"], .ofRuns emojiPresentationRuns⟩,
   ⟨["extendedpictographic", "extpict"], .ofRuns extendedPictographicRuns⟩,
   ⟨["extender", "ext"], .ofRuns extenderRuns⟩,
   ⟨["graphemebase", "grbase"], graphemeBase⟩,
   ⟨["graphemeextend", "grext"], graphemeExtend⟩,
   ⟨["graphemelink", "grlink"], .ofRuns graphemeLinkRuns⟩,
   ⟨["hexdigit", "hex"], hexDigits⟩,
   ⟨["hyphen"], .ofRuns hyphenRuns⟩,
   ⟨["idsbinaryoperator", "idsb"], .ofRuns idsBinaryRuns⟩,
   ⟨["idstrinaryoperator", "idst"], .ofRuns idsTrinaryRuns⟩,
   ⟨["idsunaryoperator", "idsu"], .ofRuns idsUnaryRuns⟩,
   ⟨["idcompatmathcontinue"], idCompatMathStart ∪ .ofRuns idCompatMathContinueRuns⟩,
   ⟨["idcompatmathstart"], idCompatMathStart⟩,
   ⟨["idcontinue", "idc"], idContinue⟩,
   ⟨["idstart", "ids"], idStart⟩,
   ⟨["ideographic", "ideo"], ideographs⟩,
   ⟨["joincontrol", "joinc"], joinControls⟩,
   ⟨["logicalorderexception", "loe"], .ofRuns logicalOrderExceptionRuns⟩,
   ⟨["lowercase", "lower"], lowercaseSet⟩,
   ⟨["math"], mathSymbols ∪ otherMath⟩,
   ⟨["modifiercombiningmark", "mcm"], .ofRuns modifierCombiningMarkRuns⟩,
   ⟨["noncharactercodepoint", "nchar"], .ofRuns noncharacterRuns⟩,
   ⟨["otheralphabetic", "oalpha"], otherAlphabetic⟩,
   ⟨["otherdefaultignorablecodepoint", "odi"], otherDefaultIgnorable⟩,
   ⟨["othergraphemeextend", "ogrext"], otherGraphemeExtend⟩,
   ⟨["otheridcontinue", "oidc"], otherIdContinue⟩,
   ⟨["otheridstart", "oids"], otherIdStart⟩,
   ⟨["otherlowercase", "olower"], .ofRuns otherLowercaseRuns⟩,
   ⟨["othermath", "omath"], otherMath⟩,
   ⟨["otheruppercase", "oupper"], .ofRuns otherUppercaseRuns⟩,
   ⟨["patternsyntax", "patsyn"], patternSyntax⟩,
   ⟨["patternwhitespace", "patws"], patternBlanks⟩,
   ⟨["prependedconcatenationmark", "pcm"], prependedMarks⟩,
   ⟨["quotationmark", "qmark"], .ofRuns quotationMarkRuns⟩,
   ⟨["radical"], .ofRuns radicalRuns⟩,
   ⟨["regionalindicator", "ri"], regionalIndicators⟩,
   ⟨["sentenceterminal", "sterm"], sentenceTerminals⟩,
   ⟨["softdotted", "sd"], .ofRuns softDottedRuns⟩,
   ⟨["terminalpunctuation", "term"], .ofRuns terminalPunctuationRuns⟩,
   ⟨["unifiedideograph", "uideo"], unifiedIdeographs⟩,
   ⟨["uppercase", "upper"], uppercaseSet⟩,
   ⟨["variationselector", "vs"], variationSelectors⟩,
   ⟨["whitespace", "wspace", "space"], blanks⟩,
   ⟨["xidcontinue", "xidc"], .diff idContinue (.ofRuns nonXidContinueRuns)⟩,
   ⟨["xidstart", "xids"], .diff idStart (.ofRuns nonXidStartRuns)⟩]

/-- The characters of words: letters, marks, digits, connectors and joiners. -/
def wordChars : CharSet := alphabetic ∪ marks ∪ digits ∪ connectorPunctuation ∪ joinControls

/-- Whether a character may be part of a word. -/
def isWordChar (c : Char) : Bool :=
  if c.toNat < 128 then c.isAlphanum || c = '_' else wordChars.contains c

end Criteria.Text
