import Criteria.Json
import Criteria.Number.Shortest

/-!
JSON texts, either on one line or with each item on a line of its own, two spaces further in at each
level.
-/
namespace Criteria.Json

def hexDigit (n : Nat) : Char := Char.ofNat (if n < 10 then 48 + n else 87 + n)

/-- A character as it is written between quotes. -/
def escape (c : Char) : List Char :=
  if c = '"' then ['\\', '"']
  else if c = '\\' then ['\\', '\\']
  else if c = '\n' then ['\\', 'n']
  else if c = '\r' then ['\\', 'r']
  else if c = '\t' then ['\\', 't']
  else if c = '\x08' then ['\\', 'b']
  else if c = '\x0c' then ['\\', 'f']
  else if c.toNat < 0x20 then
    ['\\', 'u', '0', '0', hexDigit (c.toNat / 16), hexDigit (c.toNat % 16)]
  else [c]

def quoted (s : String) : String := String.ofList ('"' :: s.toList.flatMap escape ++ ['"'])

/-- The text of a number that is no integer. A whole one keeps a point. -/
def realText (x : Number.Double) : String :=
  match x.toRat? with
  | none => "null"
  | some r => if r.den = 1 then x.text ++ ".0" else x.text

mutual

/-- The text on one line. -/
def compact : Json → String
  | null => "null"
  | bool b => if b then "true" else "false"
  | integer n => toString n
  | real x => realText x
  | text s => quoted s
  | array items => "[" ++ compactItems items ++ "]"
  | object fields => "\x7b" ++ compactFields fields ++ "\x7d"

def compactItems : List Json → String
  | [] => ""
  | [item] => compact item
  | item :: rest => compact item ++ "," ++ compactItems rest

def compactFields : List (String × Json) → String
  | [] => ""
  | [(name, item)] => quoted name ++ ":" ++ compact item
  | (name, item) :: rest => quoted name ++ ":" ++ compact item ++ "," ++ compactFields rest

end

/-- A new line at the given level. -/
def newLine (level : Nat) : String := String.ofList ('\n' :: List.replicate (2 * level) ' ')

mutual

/-- The text over several lines, of which the last is at the given level. -/
def indented (level : Nat) : Json → String
  | null => "null"
  | bool b => if b then "true" else "false"
  | integer n => toString n
  | real x => realText x
  | text s => quoted s
  | array [] => "[]"
  | array (item :: rest) =>
    "[" ++ indentedItems (level + 1) (item :: rest) ++ newLine level ++ "]"
  | object [] => "\x7b\x7d"
  | object (field :: rest) =>
    "\x7b" ++ indentedFields (level + 1) (field :: rest) ++ newLine level ++ "\x7d"

def indentedItems (level : Nat) : List Json → String
  | [] => ""
  | [item] => newLine level ++ indented level item
  | item :: rest => newLine level ++ indented level item ++ "," ++ indentedItems level rest

def indentedFields (level : Nat) : List (String × Json) → String
  | [] => ""
  | [(name, item)] => newLine level ++ quoted name ++ ": " ++ indented level item
  | (name, item) :: rest =>
    newLine level ++ quoted name ++ ": " ++ indented level item ++ "," ++ indentedFields level rest

end

def pretty (j : Json) : String := indented 0 j

end Criteria.Json
