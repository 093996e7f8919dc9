import Criteria.Text.Property
import Criteria.Text.Script

/-!
The roles of characters where a text is cut into what is seen as characters, into words and into
sentences, as sets that are found by name.
-/
namespace Criteria.Text

def scriptSet (name : String) : CharSet := ((Script.find? name).map Script.set).getD .empty

namespace Cluster

/-- Letters that stand before the one that they belong to. -/
def prepended : CharSet :=
  prependedMarks ∪
    .ofRuns [⟨0xd4e, 0xd4e, 1⟩, ⟨0x111c2, 0x111c3, 1⟩, ⟨0x113d1, 0x113d1, 1⟩,
      ⟨0x1193f, 0x11941, 2⟩, ⟨0x11a3a, 0x11a3a, 1⟩, ⟨0x11a84, 0x11a89, 1⟩,
      ⟨0x11d46, 0x11d46, 1⟩, ⟨0x11f02, 0x11f02, 1⟩]

/-- Spacing marks that begin a character of their own. -/
def loneMarks : CharSet :=
  .ofRuns [⟨0x102b, 0x102c, 1⟩, ⟨0x1038, 0x1038, 1⟩, ⟨0x1062, 0x1064, 1⟩, ⟨0x1067, 0x106d, 1⟩,
    ⟨0x1083, 0x1083, 1⟩, ⟨0x1087, 0x108c, 1⟩, ⟨0x108f, 0x108f, 1⟩, ⟨0x109a, 0x109c, 1⟩,
    ⟨0x1a61, 0x1a61, 1⟩, ⟨0x1a63, 0x1a64, 1⟩, ⟨0xaa7b, 0xaa7d, 2⟩, ⟨0x11720, 0x11721, 1⟩]

/-- Syllables of Hangul. -/
def syllables : CharSet := .range 0xac00 0xd7a3

/-- Syllables of Hangul without a final consonant. -/
def openSyllables : CharSet := .ofRuns [⟨0xac00, 0xd788, 28⟩]

def roles : List NamedSet :=
  [⟨["cr"], .range 0xd 0xd⟩, ⟨["lf"], .range 0xa 0xa⟩,
   ⟨["control", "cn"],
    .diff (controls ∪ formats ∪ lineSeparators ∪ paragraphSeparators ∪
        .inter unassigned defaultIgnorable)
      (.ofCodes [0xa, 0xd] ∪ joinControls ∪ prependedMarks ∪ graphemeExtend)⟩,
   ⟨["extend", "ex"], graphemeExtend ∪ emojiModifiers⟩,
   ⟨["l"], .ofRanges [⟨0x1100, 0x115f⟩, ⟨0xa960, 0xa97c⟩]⟩,
   ⟨["v"], .ofRanges [⟨0x1160, 0x11a7⟩, ⟨0xd7b0, 0xd7c6⟩, ⟨0x16d63, 0x16d63⟩, ⟨0x16d67, 0x16d6a⟩]⟩,
   ⟨["t"], .ofRanges [⟨0x11a8, 0x11ff⟩, ⟨0xd7cb, 0xd7fb⟩]⟩,
   ⟨["lv"], openSyllables⟩, ⟨["lvt"], .diff syllables openSyllables⟩,
   ⟨["prepend", "pp"], prepended⟩, ⟨["regionalindicator", "ri"], regionalIndicators⟩,
   ⟨["spacingmark", "sm"],
    .diff spacingMarks (graphemeExtend ∪ loneMarks) ∪ .ofCodes [0xe33, 0xeb3]⟩,
   ⟨["zwj"], .range 0x200d 0x200d⟩]

end Cluster

namespace Word

def extend : CharSet :=
  .diff (graphemeExtend ∪ spacingMarks ∪ emojiModifiers) (.range 0x200d 0x200d)

def hebrewLetters : CharSet := .inter (scriptSet "hebr") otherLetters

def katakana : CharSet :=
  scriptSet "kana" ∪
    .ofRanges [⟨0x3031, 0x3035⟩, ⟨0x309b, 0x309c⟩, ⟨0x30a0, 0x30a0⟩, ⟨0x30fc, 0x30fc⟩,
      ⟨0xff70, 0xff70⟩]

/-- Letters of scripts that are written without spaces between the words. -/
def unspaced : CharSet :=
  ["ahom", "khmr", "laoo", "mymr", "talu", "tale", "lana", "tavt", "thai"].foldl
    (fun s name => s ∪ scriptSet name) .empty

/-- Marks and symbols that count as letters. -/
def letterLike : CharSet :=
  .ofRanges [⟨0x2c2, 0x2c5⟩, ⟨0x2d2, 0x2d7⟩, ⟨0x2de, 0x2df⟩, ⟨0x2e5, 0x2eb⟩, ⟨0x2ed, 0x2ed⟩,
    ⟨0x2ef, 0x2ff⟩, ⟨0x55a, 0x55c⟩, ⟨0x55e, 0x55e⟩, ⟨0x58a, 0x58a⟩, ⟨0x5f3, 0x5f3⟩,
    ⟨0x70f, 0x70f⟩, ⟨0xa708, 0xa716⟩, ⟨0xa720, 0xa721⟩, ⟨0xa789, 0xa78a⟩, ⟨0xab5b, 0xab5b⟩]

def letterChars : CharSet :=
  .diff alphabetic
      (ideographs ∪ katakana ∪ scriptSet "hira" ∪ unspaced ∪ extend ∪ hebrewLetters) ∪
    letterLike

/-- Marks that stand before a number. -/
def numberSigns : CharSet := .diff prependedMarks (.range 0x70f 0x70f)

/-- The invisible tags, which spell the names of flags. -/
def tags : CharSet := .range 0xe0020 0xe007f

def roles : List NamedSet :=
  [⟨["aletter", "le"], letterChars⟩, ⟨["cr"], .range 0xd 0xd⟩,
   ⟨["doublequote", "dq"], .range 0x22 0x22⟩, ⟨["extend"], extend⟩,
   ⟨["extendnumlet", "ex"], connectorPunctuation ∪ .range 0x202f 0x202f⟩,
   ⟨["format", "fo"],
    .diff formats (.range 0x200b 0x200d ∪ prependedMarks ∪ tags)⟩,
   ⟨["hebrewletter", "hl"], hebrewLetters⟩, ⟨["katakana", "ka"], katakana⟩,
   ⟨["lf"], .range 0xa 0xa⟩, ⟨["midletter", "ml"], midLetters⟩,
   ⟨["midnum", "mn"],
    .ofCodes [0x2c, 0x3b, 0x37e, 0x589, 0x60c, 0x60d, 0x66c, 0x7f8, 0x2044, 0xfe50, 0xfe54, 0xff0c,
      0xff1b]⟩,
   ⟨["midnumlet", "mb"], midNumLets⟩,
   ⟨["newline", "nl"], .ofCodes [0xb, 0xc, 0x85, 0x2028, 0x2029]⟩,
   ⟨["numeric", "nu"], digits ∪ numberSigns ∪ .ofCodes [0x66b, 0x19da]⟩,
   ⟨["regionalindicator", "ri"], regionalIndicators⟩,
   ⟨["singlequote", "sq"], .range 0x27 0x27⟩,
   ⟨["wsegspace"], .diff spaceSeparators (.ofCodes [0xa0, 0x2007, 0x202f])⟩,
   ⟨["zwj"], .range 0x200d 0x200d⟩]

end Word

namespace Sentence

def points : CharSet := .ofCodes [0x2e, 0x2024, 0xfe52, 0xff0e]

def newlines : CharSet := .ofCodes [0xa, 0xd]

def separatorChars : CharSet := .ofCodes [0x85, 0x2028, 0x2029]

def extend : CharSet := graphemeExtend ∪ spacingMarks ∪ .range 0x200d 0x200d

/-- The capital letters of Georgian, which do not begin a sentence. -/
def georgianCapitals : CharSet := .ofRanges [⟨0x1c90, 0x1cba⟩, ⟨0x1cbd, 0x1cbf⟩]

def lower : CharSet := .diff lowercaseSet (graphemeExtend ∪ georgianLetters)

def upper : CharSet := .diff (uppercaseSet ∪ titleLetters) georgianCapitals

def roles : List NamedSet :=
  [⟨["aterm", "at"], points⟩,
   ⟨["close", "cl"],
    openPunctuation ∪ closePunctuation ∪ initialPunctuation ∪ finalPunctuation ∪
      .ofRanges [⟨0x22, 0x22⟩, ⟨0x27, 0x27⟩, ⟨0x275b, 0x2760⟩, ⟨0x2e00, 0x2e01⟩, ⟨0x2e06, 0x2e08⟩,
        ⟨0x2e0b, 0x2e0b⟩, ⟨0x1f676, 0x1f678⟩]⟩,
   ⟨["cr"], .range 0xd 0xd⟩, ⟨["extend", "ex"], extend⟩,
   ⟨["format", "fo"], .diff formats (joinControls ∪ Word.numberSigns ∪ Word.tags)⟩,
   ⟨["lf"], .range 0xa 0xa⟩, ⟨["lower", "lo"], lower⟩,
   ⟨["numeric", "nu"], digits ∪ Word.numberSigns ∪ .ofCodes [0x66b, 0x66c, 0x19da]⟩,
   ⟨["oletter", "le"], .diff alphabetic (lower ∪ upper ∪ extend) ∪ .range 0x5f3 0x5f3⟩,
   ⟨["scontinue", "sc"],
    .ofRanges [⟨0x2c, 0x2d⟩, ⟨0x3a, 0x3b⟩, ⟨0x37e, 0x37e⟩, ⟨0x55d, 0x55d⟩, ⟨0x60c, 0x60d⟩,
      ⟨0x7f8, 0x7f8⟩, ⟨0x1802, 0x1802⟩, ⟨0x1808, 0x1808⟩, ⟨0x2013, 0x2014⟩, ⟨0x3001, 0x3001⟩,
      ⟨0xfe10, 0xfe11⟩, ⟨0xfe13, 0xfe14⟩, ⟨0xfe31, 0xfe32⟩, ⟨0xfe50, 0xfe51⟩, ⟨0xfe54, 0xfe55⟩,
      ⟨0xfe58, 0xfe58⟩, ⟨0xfe63, 0xfe63⟩, ⟨0xff0c, 0xff0d⟩, ⟨0xff1a, 0xff1b⟩, ⟨0xff64, 0xff64⟩]⟩,
   ⟨["sterm", "st"], .diff sentenceTerminals points⟩,
   ⟨["sep", "se"], separatorChars⟩, ⟨["sp"], .diff blanks (newlines ∪ separatorChars)⟩,
   ⟨["upper", "up"], upper⟩]

end Sentence

end Criteria.Text
