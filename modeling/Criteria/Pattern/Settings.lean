import Criteria.Pattern

/-!
The settings under which a pattern is read, and why a text is no pattern.
-/
namespace Criteria.Pattern

open Text (CharSet)

/-- Why a text is no pattern. -/
inductive Fault where
  | groupUnclosed
  | groupUnopened
  | groupName
  | flag
  | nothingToRepeat
  | count
  | classUnclosed
  | classItem
  | classRange
  | escape
  | backReference
  | lookAround
  | wordBoundary
  | property
  | byteClass
  | nesting
  | tooLarge
deriving DecidableEq, Repr

namespace Fault

def cause : Fault → String
  | groupUnclosed => "unclosed group"
  | groupUnopened => "unopened group"
  | groupName => "invalid capture group name"
  | flag => "invalid flags"
  | nothingToRepeat => "repetition operator missing expression"
  | count => "invalid repetition count"
  | classUnclosed => "unclosed character class"
  | classItem => "invalid item in character class"
  | classRange => "invalid character class range"
  | escape => "unrecognized escape sequence"
  | backReference => "backreferences are not supported"
  | lookAround => "look-around is not supported"
  | wordBoundary => "invalid special word boundary"
  | property => "Unicode property not found"
  | byteClass => "pattern can match invalid text"
  | nesting => "exceeded the maximum number of nested expressions"
  | tooLarge => "pattern too large"

def message : Fault → String
  | tooLarge => "Compiled regex exceeds size limit of 10485760 bytes."
  | fault => "regex parse error: " ++ fault.cause

end Fault

/-- Settings that a pattern may change for a part of itself. -/
structure Flags where
  ignoreCase : Bool := false
  multiLine : Bool := false
  dotAll : Bool := false
  crlf : Bool := false
  extended : Bool := false
  swapGreed : Bool := false
  unicode : Bool := true
deriving DecidableEq

namespace Flags

/-- A set of characters under the setting for case. -/
def fold (f : Flags) (s : CharSet) : CharSet :=
  if !f.ignoreCase then s else if f.unicode then s.folded else s.foldedAscii

/-- The complement of a set, which outside Unicode would take in parts of characters. -/
def negate (f : Flags) (s : CharSet) : Except Fault CharSet :=
  if f.unicode then .ok s.complement else .error .byteClass

/-- A set under the setting for case, and its complement if `negated`. -/
def foldNegate (f : Flags) (negated : Bool) (s : CharSet) : Except Fault CharSet :=
  if negated then f.negate (f.fold s) else .ok (f.fold s)

end Flags

/-- Removes what is read over in an extended pattern, from within a comment or from outside of it:
white space, and comments up to the end of their lines. -/
def skipFrom (inComment : Bool) : List Char → List Char
  | [] => []
  | c :: rest =>
    if inComment then skipFrom (c != '\n') rest
    else if Text.isBlank c then skipFrom false rest
    else if c = '#' then skipFrom true rest
    else c :: rest

theorem length_skipFrom_le (inComment : Bool) (cs : List Char) :
    (skipFrom inComment cs).length ≤ cs.length := by
  induction cs generalizing inComment with
  | nil => simp [skipFrom]
  | cons c rest ih =>
    simp only [skipFrom, List.length_cons]
    split
    · exact Nat.le_succ_of_le (ih _)
    · split
      · exact Nat.le_succ_of_le (ih _)
      · split
        · exact Nat.le_succ_of_le (ih _)
        · simp

/-- Removes what is read over under the settings. -/
def skipBlank (f : Flags) (cs : List Char) : List Char :=
  if f.extended then skipFrom false cs else cs

theorem length_skipBlank_le (f : Flags) (cs : List Char) : (skipBlank f cs).length ≤ cs.length := by
  unfold skipBlank
  split
  · exact length_skipFrom_le false cs
  · exact Nat.le_refl _

/-- The first character that is neither white space nor the first mark of a comment. -/
def peekFrom (inComment : Bool) : List Char → Option Char
  | [] => none
  | c :: rest =>
    if Text.isBlank c then peekFrom inComment rest
    else if !inComment && c = '#' then peekFrom true rest
    else some c

/-- The character that is looked at ahead. In an extended pattern white space is passed over, and of
a comment no more than its mark; if nothing is left, it is the character that comes next. -/
def peek (f : Flags) (cs : List Char) : Option Char :=
  if f.extended then (peekFrom false cs).or cs.head? else cs.head?

/-- The characters up to the closing brace without what is read over, and what follows it. -/
def braced? (f : Flags) (inComment : Bool) : List Char → Option (List Char × List Char)
  | [] => none
  | c :: rest =>
    if inComment then braced? f (c != '\n') rest
    else if c = '\x7d' then some ([], rest)
    else if f.extended && Text.isBlank c then braced? f false rest
    else if f.extended && c = '#' then braced? f true rest
    else (braced? f false rest).map fun (cs, rest) => (c :: cs, rest)

end Criteria.Pattern
