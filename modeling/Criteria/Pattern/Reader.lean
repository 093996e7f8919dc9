import Criteria.Number.Integer
import Criteria.Pattern.Brackets
import Criteria.Pattern.Footprint
import Criteria.Text.LaterTable

/-!
Reading of patterns: characters, classes, groups, repetitions and alternatives. Settings may be
changed for the rest of a group or for a group of their own.
-/
namespace Criteria.Pattern

open Text (CharSet)

/-- A part of a pattern that has been read, and how deep it is nested as it is written. -/
structure Part where
  pattern : Pattern
  depth : Nat := 0

/-- What is left to read and under which settings, the number of numbered groups so far and the
names among them. -/
structure Context where
  flags : Flags
  groups : Nat
  names : List String
  rest : List Char

/-- Sets or unsets the setting of a letter. -/
def Flags.set? (f : Flags) (value : Bool) : Char → Option Flags
  | 'i' => some { f with ignoreCase := value }
  | 'm' => some { f with multiLine := value }
  | 's' => some { f with dotAll := value }
  | 'R' => some { f with crlf := value }
  | 'x' => some { f with extended := value }
  | 'u' => some { f with unicode := value }
  | 'U' => some { f with swapGreed := value }
  | _ => none

/-- Settings up to their end, a colon or a parenthesis. Each letter, and the dash, occurs once at
most, and a letter follows the dash. -/
def readFlags (f : Flags) (seen : List Char) :
    List Char → Except Fault (Flags × List Char × List Char)
  | [] => .error .flag
  | c :: rest =>
    if c = ':' || c = ')' then
      if seen.head? == some '-' then .error .flag else .ok (f, seen, c :: rest)
    else if seen.contains c then .error .flag
    else if c = '-' then readFlags f (c :: seen) rest
    else match f.set? (!seen.contains '-') c with
      | some f => readFlags f (c :: seen) rest
      | none => .error .flag

def nameLetters : CharSet := Text.alphabetic ∪ .ofRuns Text.laterAlphabeticRuns

def nameNumbers : CharSet := Text.numbers ∪ .ofRuns Text.laterNumberRuns

/-- Whether a character may stand in the name of a group. -/
def isNameChar (first : Bool) (c : Char) : Bool :=
  c = '_' || nameLetters.contains c ||
    !first && (nameNumbers.contains c || c = '.' || c = '[' || c = ']')

/-- The name of a group up to its closing angle. A name is used once. -/
def readName (ctx : Context) (cs : List Char) : Except Fault Context :=
  match cs.takeWhile (· != '>'), cs.dropWhile (· != '>') with
  | c :: name, _ :: rest =>
    let text := String.ofList (c :: name)
    if isNameChar true c && name.all (isNameChar false) && !ctx.names.contains text then
      .ok { ctx with groups := ctx.groups + 1, names := text :: ctx.names, rest }
    else .error .groupName
  | _, _ => .error .groupName

/-- The digits at the beginning, between which what is read over may stand, and what follows. -/
def readDigits (f : Flags) : List Char → List Char × List Char
  | [] => ([], [])
  | c :: rest =>
    if c.isDigit then
      let (digits, rest) := readDigits f (skipBlank f rest)
      (c :: digits, rest)
    else ([], c :: rest)
termination_by cs => cs.length
decreasing_by exact Nat.lt_succ_of_le (length_skipBlank_le f rest)

/-- Removes white space, and after it what is read over under the settings. -/
def skipSpaces (f : Flags) (cs : List Char) : List Char :=
  match cs with
  | [] => []
  | c :: rest => if Text.isBlank c then skipSpaces f (skipBlank f rest) else c :: rest
termination_by cs.length
decreasing_by exact Nat.lt_succ_of_le (length_skipBlank_le f rest)

/-- A number with white space around it. -/
def readCount (f : Flags) (cs : List Char) : Except Fault (Nat × List Char) :=
  let (digits, rest) := readDigits f (cs.dropWhile Text.isBlank)
  match Number.IntegerRange.uint32.read digits with
  | .ok n => .ok (n.toNat, skipSpaces f rest)
  | .error _ => .error .count

/-- The bounds of a repetition after its opening brace, with what follows the closing one. -/
def readBounds (f : Flags) (cs : List Char) : Except Fault (Nat × Option Nat × List Char) :=
  (readCount f (skipBlank f cs)).bind fun (least, rest) =>
    match rest with
    | '\x7d' :: rest => .ok (least, some least, rest)
    | ',' :: rest =>
      match skipBlank f rest with
      | '\x7d' :: rest => .ok (least, none, rest)
      | rest =>
        (readCount f rest).bind fun (greatest, rest) =>
          match rest with
          | '\x7d' :: rest =>
            if least ≤ greatest then .ok (least, some greatest, rest) else .error .count
          | _ => .error .count
    | _ => .error .count

/-- Items of a sequence, the last one first. A change of settings is an item that cannot be
repeated. -/
abbrev Items := List (Option Part)

def deepest (parts : List (Option Part)) : Nat :=
  parts.foldl (fun depth part => max depth ((part.map Part.depth).getD 0)) 0

/-- The sequence of the items. Several items are a level of their own. -/
def sequence (items : Items) : Part :=
  match items with
  | [] | [none] => ⟨.empty, 0⟩
  | [some part] => part
  | items => ⟨seqOf (items.reverse.filterMap (·.map Part.pattern)), deepest items + 1⟩

/-- The alternatives, of which the last one is given first. -/
def alternatives : List Part → Part
  | [part] => part
  | parts => ⟨altOf (parts.reverse.map Part.pattern), deepest (parts.map some) + 1⟩

/-- Repeats the last item. A question mark behind the bounds asks for few repetitions instead of
many, or the other way round. -/
def repeatLast (f : Flags) (items : Items) (least : Nat) (greatest : Option Nat)
    (rest : List Char) : Except Fault (Items × List Char) :=
  match items with
  | some part :: items =>
    let marked := rest.head? == some '?'
    let pattern := repeated part.pattern least greatest (marked != f.swapGreed)
    .ok (some ⟨pattern, part.depth + 1⟩ :: items, if marked then rest.drop 1 else rest)
  | _ => .error .nothingToRepeat

/-- The pattern of an escape. -/
def escapePattern (f : Flags) : Escape → Pattern
  | .char c => ofSet (f.fold (.single c))
  | .set s => ofSet s
  | .anchor a => .anchor a

/-- The characters that a point stands for. -/
def pointSet (f : Flags) : CharSet :=
  if f.dotAll then .full
  else if f.crlf then .complement (.ofCodes [10, 13])
  else .complement (.single '\n')

def startAnchor (f : Flags) : Anchor :=
  if !f.multiLine then .textStart else if f.crlf then .crlfStart else .lineStart

def endAnchor (f : Flags) : Anchor :=
  if !f.multiLine then .textEnd else if f.crlf then .crlfEnd else .lineEnd

/-- What an opening parenthesis begins: a group, which has a number or has none, or new settings. -/
inductive Opening where
  | group (number : Option Nat) (inner : Context)
  | settings (flags : Flags) (rest : List Char)

/-- What follows an opening parenthesis. -/
def readOpening (ctx : Context) (cs : List Char) : Except Fault Opening :=
  match cs with
  | '?' :: '=' :: _ | '?' :: '!' :: _ | '?' :: '<' :: '=' :: _ | '?' :: '<' :: '!' :: _ =>
    .error .lookAround
  | '?' :: 'P' :: '<' :: rest | '?' :: '<' :: rest =>
    (readName ctx rest).map (.group (some ctx.groups))
  | '?' :: rest =>
    (readFlags ctx.flags [] rest).bind fun (flags, seen, rest) =>
      match rest with
      | ':' :: rest => .ok (.group none { ctx with flags, rest })
      | _ :: rest => if seen.isEmpty then .error .nothingToRepeat else .ok (.settings flags rest)
      | [] => .error .flag
  | _ => .ok (.group (some ctx.groups) { ctx with groups := ctx.groups + 1, rest := cs })

/-- A group around what has been read. -/
def Part.grouped (part : Part) (number : Option Nat) : Part :=
  ⟨match number with
    | some n => .group n part.pattern
    | none => part.pattern, part.depth + 1⟩

/-- Reads up to the parenthesis that closes the group, or to the end. The alternatives before the
current one and the items of the current one are given last first. -/
def readBody : Nat → List Part → Items → Context → Except Fault (Part × Context)
  | 0, _, _, _ => .error .nesting
  | fuel + 1, before, items, ctx =>
    let add (part : Part) (rest : List Char) :=
      readBody fuel before (some part :: items) { ctx with rest }
    let again (least : Nat) (greatest : Option Nat) (rest : List Char) :=
      (repeatLast ctx.flags items least greatest rest).bind fun (items, rest) =>
        readBody fuel before items { ctx with rest }
    match skipBlank ctx.flags ctx.rest with
    | [] => .ok (alternatives (sequence items :: before), { ctx with rest := [] })
    | ')' :: rest => .ok (alternatives (sequence items :: before), { ctx with rest := ')' :: rest })
    | '|' :: rest => readBody fuel (sequence items :: before) [] { ctx with rest }
    | '(' :: rest =>
      (readOpening ctx (skipBlank ctx.flags rest)).bind fun opening =>
        match opening with
        | .settings flags rest => readBody fuel before (none :: items) { ctx with flags, rest }
        | .group number inner =>
          (readBody fuel [] [] inner).bind fun (part, after) =>
            match after.rest with
            | ')' :: rest =>
              readBody fuel before (some (part.grouped number) :: items)
                { after with flags := ctx.flags, rest }
            | _ => .error .groupUnclosed
    | '[' :: rest =>
      (readClass ctx.flags rest).bind fun (s, depth, rest) => add ⟨ofSet s, depth⟩ rest
    | '?' :: rest => again 0 (some 1) rest
    | '*' :: rest => again 0 none rest
    | '+' :: rest => again 1 none rest
    | '\x7b' :: rest =>
      if items.head?.join.isNone then .error .nothingToRepeat else
      (readBounds ctx.flags rest).bind fun (least, greatest, rest) =>
        again least greatest (skipBlank ctx.flags rest)
    | '\\' :: rest =>
      (readEscape ctx.flags rest).bind fun (e, rest) => add ⟨escapePattern ctx.flags e, 0⟩ rest
    | '.' :: rest =>
      if ctx.flags.unicode then add ⟨ofSet (pointSet ctx.flags), 0⟩ rest else .error .byteClass
    | '^' :: rest => add ⟨.anchor (startAnchor ctx.flags), 0⟩ rest
    | '$' :: rest => add ⟨.anchor (endAnchor ctx.flags), 0⟩ rest
    | c :: rest => add ⟨escapePattern ctx.flags (.char c), 0⟩ rest

/-- The greatest depth of a pattern. -/
def depthLimit : Nat := 250

/-- Reads a pattern. -/
def read (s : String) : Except Fault Pattern :=
  let cs := s.toList
  (readBody (cs.length + 1) [] [] ⟨{}, 1, [], cs⟩).bind fun (part, after) =>
    if !after.rest.isEmpty then .error .groupUnopened
    else if part.depth > depthLimit then .error .nesting
    else if !part.pattern.isSmall then .error .tooLarge
    else .ok part.pattern

end Criteria.Pattern
