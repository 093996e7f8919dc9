import Criteria.Text.LaterTable
import Criteria.Text.Property

/-!
Texts quoted for descriptions. Quotes, backslashes and the common control characters are escaped by
a letter, and whatever cannot be seen on its own is written as its code.
-/
namespace Criteria.Text

def hexCode (n : Nat) : List Char := Nat.toDigits 16 n

/-- Characters that show something on their own: those of the categories that show anything, without
those that extend the one before them or are not shown by themselves. The sound marks of halfwidth
Katakana, which are letters, stand on their own. -/
def visible : CharSet :=
  .diff (letters ∪ marks ∪ numbers ∪ punctuation ∪ symbols)
      (.diff graphemeExtend modifierLetters ∪ defaultIgnorable) ∪
    .ofRuns laterVisibleRuns

/-- Whether a character is written as it is. -/
def isVisible (c : Char) : Bool :=
  if c.toNat < 128 then 0x20 ≤ c.toNat && c.toNat ≠ 0x7f else visible.contains c

/-- A character as it stands between quotes. -/
def quotedChar (c : Char) : List Char :=
  if c = '"' then ['\\', '"']
  else if c = '\\' then ['\\', '\\']
  else if c = '\n' then ['\\', 'n']
  else if c = '\r' then ['\\', 'r']
  else if c = '\t' then ['\\', 't']
  else if c.toNat = 0 then ['\\', '0']
  else if isVisible c then [c]
  else ['\\', 'u', '\x7b'] ++ hexCode c.toNat ++ ['\x7d']

/-- The text in quotes. -/
def quoted (s : String) : String := String.ofList ('"' :: s.toList.flatMap quotedChar ++ ['"'])

end Criteria.Text
