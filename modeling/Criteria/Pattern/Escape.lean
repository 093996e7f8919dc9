import Criteria.Pattern.Property
import Criteria.Pattern.Settings

/-!
Escapes within patterns: characters by code or by letter, classes of characters, and anchors.
-/
namespace Criteria.Pattern

open Text (CharSet)

/-- What an escape stands for. -/
inductive Escape where
  | char (c : Char)
  | set (s : CharSet)
  | anchor (a : Anchor)

def isHexDigit (c : Char) : Bool := c.isDigit || 'a' ≤ c && c ≤ 'f' || 'A' ≤ c && c ≤ 'F'

def hexValue (c : Char) : Nat :=
  if c.isDigit then c.toNat - 48 else if c.toNat < 97 then c.toNat - 55 else c.toNat - 87

/-- The character of hexadecimal digits, of which there is at least one. -/
def hexChar (ds : List Char) : Except Fault Char :=
  let n := ds.foldl (fun n c => n * 16 + hexValue c) 0
  if ds.isEmpty || !ds.all isHexDigit || !n.isValidChar then .error .escape else .ok (Char.ofNat n)

/-- So many characters without what is read over, and what follows them. -/
def takeChars (f : Flags) : Nat → List Char → Except Fault (List Char × List Char)
  | 0, cs => .ok ([], cs)
  | _ + 1, [] => .error .escape
  | n + 1, c :: rest =>
    (takeChars f n (skipBlank f rest)).map fun (cs, rest) => (c :: cs, rest)

/-- A character by its code: in braces, or with exactly `count` digits. -/
def hexEscape (f : Flags) (count : Nat) (cs : List Char) : Except Fault (Char × List Char) :=
  match skipBlank f cs with
  | '\x7b' :: rest =>
    match braced? f false rest with
    | some (ds, rest) => (hexChar ds).map (·, skipBlank f rest)
    | none => .error .escape
  | cs => (takeChars f count cs).bind fun (ds, rest) => (hexChar ds).map (·, rest)

/-- A character by a code of two digits. Outside Unicode a code beyond ASCII is a part of a
character. -/
def byteEscape (f : Flags) (cs : List Char) : Except Fault (Char × List Char) :=
  (hexEscape f 2 cs).bind fun (c, rest) =>
    if f.unicode || c.toNat < 128 || (skipBlank f cs).head? == some '\x7b' then .ok (c, rest)
    else .error .byteClass

/-- The classes written with a letter. -/
def letterClass (f : Flags) (c : Char) : CharSet :=
  match c, f.unicode with
  | 'd', true => Text.digits
  | 's', true => Text.blanks
  | _, true => Text.wordChars
  | 'd', false => .range 48 57
  | 's', false => .ofRanges [⟨9, 13⟩, ⟨32, 32⟩]
  | _, false => .ofRanges [⟨48, 57⟩, ⟨65, 90⟩, ⟨95, 95⟩, ⟨97, 122⟩]

/-- A property after its mark: one letter, or a name in braces. -/
def propertyEscape (f : Flags) (negated : Bool) (cs : List Char) :
    Except Fault (Escape × List Char) :=
  let finish (name rest : List Char) : Except Fault (Escape × List Char) :=
    match property? name, f.unicode with
    | some (s, complement), true =>
      (f.foldNegate (negated != complement) s).map fun s => (.set s, rest)
    | _, _ => .error .property
  match skipBlank f cs with
  | [] => .error .escape
  | '\x7b' :: rest =>
    match braced? f false rest with
    | some (name, rest) => finish name rest
    | none => .error .escape
  | c :: rest => if c = '\\' then .error .property else finish [c] (skipBlank f rest)

/-- Word boundaries with a name in braces. What does not begin with a letter or a dash is not meant
as one. -/
def namedBoundary (f : Flags) (cs : List Char) : Except Fault (Anchor × List Char) :=
  match cs with
  | '\x7b' :: inner =>
    match skipBlank f inner with
    | [] => .error .wordBoundary
    | c :: _ =>
      if !(c.isAlpha || c = '-') then .ok (.boundary !f.unicode, cs)
      else
        match (braced? f false inner).map fun (name, rest) => (String.ofList name, rest) with
        | some ("start", rest) => .ok (.wordStart !f.unicode, rest)
        | some ("end", rest) => .ok (.wordEnd !f.unicode, rest)
        | some ("start-half", rest) => .ok (.noWordBefore !f.unicode, rest)
        | some ("end-half", rest) => .ok (.noWordAfter !f.unicode, rest)
        | _ => .error .wordBoundary
  | _ => .ok (.boundary !f.unicode, cs)

/-- Whether a character stands for itself behind a backslash: all of ASCII but letters, digits and
angles. -/
def isEscapable (c : Char) : Bool :=
  c.toNat < 128 && !c.isAlphanum && c != '<' && c != '>'

/-- The character of a letter behind a backslash. -/
def letterChar? : Char → Option Char
  | 'a' => some '\x07'
  | 'f' => some '\x0c'
  | 't' => some '\t'
  | 'n' => some '\n'
  | 'r' => some '\r'
  | 'v' => some '\x0b'
  | _ => none

/-- An escape after its backslash. -/
def readEscape (f : Flags) : List Char → Except Fault (Escape × List Char)
  | [] => .error .escape
  | c :: rest =>
    if c.isDigit then .error .backReference
    else if c = 'x' then (byteEscape f rest).map fun (c, rest) => (.char c, rest)
    else if c = 'u' then (hexEscape f 4 rest).map fun (c, rest) => (.char c, rest)
    else if c = 'U' then (hexEscape f 8 rest).map fun (c, rest) => (.char c, rest)
    else if c = 'p' || c = 'P' then propertyEscape f (c = 'P') rest
    else if c = 'd' || c = 's' || c = 'w' then .ok (.set (letterClass f c), rest)
    else if c = 'D' || c = 'S' || c = 'W' then
      (f.negate (letterClass f c.toLower)).map fun s => (.set s, rest)
    else if isEscapable c then .ok (.char c, rest)
    else if c = 'A' then .ok (.anchor .textStart, rest)
    else if c = 'z' then .ok (.anchor .textEnd, rest)
    else if c = 'b' then (namedBoundary f rest).map fun (a, rest) => (.anchor a, rest)
    else if c = 'B' then .ok (.anchor (.noBoundary !f.unicode), rest)
    else if c = '<' then .ok (.anchor (.wordStart !f.unicode), rest)
    else if c = '>' then .ok (.anchor (.wordEnd !f.unicode), rest)
    else match letterChar? c with
      | some c => .ok (.char c, rest)
      | none => .error .escape

end Criteria.Pattern
