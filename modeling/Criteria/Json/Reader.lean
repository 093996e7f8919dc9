import Criteria.Json
import Criteria.Number.DoubleText

/-!
Reading of JSON texts. Nesting is limited, a name that occurs twice keeps its last value, and a
number with a point, with an exponent or too great for an integer is taken from its leading 64 bits
and a power of ten.
-/
namespace Criteria.Json

open Number (digitsValue)

/-- Space, tab and line ends. -/
def isSpace (c : Char) : Bool := c = ' ' || c = '\t' || c = '\n' || c = '\r'

def skipSpace (cs : List Char) : List Char := cs.dropWhile isSpace

/-- The number of four hexadecimal digits, and the rest. -/
def hexCode? : List Char → Option (Nat × List Char)
  | a :: b :: c :: d :: rest =>
    [a, b, c, d].foldlM (fun acc c => (hexDigit? c).map (acc * 16 + ·)) 0 |>.map (·, rest)
  | _ => none
where
  hexDigit? (c : Char) : Option Nat :=
    if c.isDigit then some (c.toNat - 48)
    else if 'a' ≤ c && c ≤ 'f' then some (c.toNat - 87)
    else if 'A' ≤ c && c ≤ 'F' then some (c.toNat - 55)
    else none

/-- The character of an escape by code, whose mark has been read. Characters beyond the first 65536
are written as a pair of surrogates, and a surrogate alone is an error. -/
def codeEscape? (cs : List Char) : Option (Char × List Char) :=
  match hexCode? cs with
  | none => none
  | some (high, rest) =>
    if 0xd800 ≤ high && high < 0xdc00 then
      match rest with
      | '\\' :: 'u' :: rest =>
        match hexCode? rest with
        | some (low, rest) =>
          if 0xdc00 ≤ low && low < 0xe000 then
            some (Char.ofNat (0x10000 + (high - 0xd800) * 0x400 + (low - 0xdc00)), rest)
          else none
        | none => none
      | _ => none
    else if 0xdc00 ≤ high && high < 0xe000 then none
    else some (Char.ofNat high, rest)

/-- The character of a one-letter escape. -/
def letterEscape? : Char → Option Char
  | '"' => some '"'
  | '\\' => some '\\'
  | '/' => some '/'
  | 'b' => some '\x08'
  | 'f' => some '\x0c'
  | 'n' => some '\n'
  | 'r' => some '\r'
  | 't' => some '\t'
  | _ => none

/-- A string after its opening quote. Each step takes at least one character. -/
def stringBody : Nat → List Char → List Char → Option (String × List Char)
  | 0, _, _ => none
  | _, _, [] => none
  | fuel + 1, acc, c :: rest =>
    if c = '"' then some (String.ofList acc.reverse, rest)
    else if c = '\\' then
      match rest with
      | 'u' :: rest =>
        match codeEscape? rest with
        | some (c, rest) => stringBody fuel (c :: acc) rest
        | none => none
      | e :: rest =>
        match letterEscape? e with
        | some c => stringBody fuel (c :: acc) rest
        | none => none
      | [] => none
    else if c.toNat < 0x20 then none
    else stringBody fuel (c :: acc) rest

/-- Digits taken into a 64-bit significand as long as they fit, with their count and the rest. -/
def takeDigits : Nat → Nat → List Char → Nat × Nat × List Char
  | significand, count, [] => (significand, count, [])
  | significand, count, c :: rest =>
    if c.isDigit && significand * 10 + (c.toNat - 48) < Nat.pow 2 64 then
      takeDigits (significand * 10 + (c.toNat - 48)) (count + 1) rest
    else (significand, count, c :: rest)

/-- Divides by ten to the 308th until the exponent is within reach, and then by what is left. -/
def divideTens : Nat → Rat → Nat → Rat
  | 0, x, _ => x
  | fuel + 1, x, exponent =>
    let rounded (x : Rat) := Number.Double.magnitude (Number.Double.codeOf x)
    if exponent ≤ 308 then rounded (x / rounded (Rat.pow 10 exponent))
    else if x = 0 then x
    else divideTens fuel (rounded (x / rounded (Rat.pow 10 308))) (exponent - 308)

/-- The number `significand * 10 ^ exponent` with one rounding at each operation. Infinity is no
value. -/
def scaled? (negative : Bool) (significand : Nat) (exponent : Int) : Option Json :=
  let x := Number.Double.magnitude (Number.Double.codeOf significand)
  if significand = 0 then some (real (.zero negative))
  else if exponent > 308 then none
  else if exponent ≥ 0 then
    let power := Number.Double.magnitude (Number.Double.codeOf (Rat.zpow 10 exponent))
    let code := Number.Double.codeOf (x * power)
    if code = Number.infinityCode then none else some (real (.nearest negative (x * power)))
  else some (real (.nearest negative (divideTens 4 x exponent.natAbs)))

/-- An exponent after its mark: an optional sign and digits. -/
def exponentPart? (cs : List Char) : Option (Int × List Char) :=
  let (negative, ds) := match cs with
    | '+' :: r => (false, r)
    | '-' :: r => (true, r)
    | r => (false, r)
  match ds.takeWhile Char.isDigit with
  | [] => none
  | digits =>
    let n : Int := digitsValue digits
    some (if negative then -n else n, ds.dropWhile Char.isDigit)

/-- The end of a number that is no integer: an exponent may follow. -/
def finishReal (negative : Bool) (significand : Nat) (exponent : Int) (cs : List Char) :
    Option (Json × List Char) :=
  match cs with
  | c :: rest =>
    if c = 'e' || c = 'E' then
      match exponentPart? rest with
      | some (n, rest) => (scaled? negative significand (exponent + n)).map (·, rest)
      | none => none
    else (scaled? negative significand exponent).map (·, c :: rest)
  | [] => (scaled? negative significand exponent).map (·, [])

/-- An integer, kept as one if it fits 64 bits. Zero with a minus sign is not an integer. -/
def integerValue (negative : Bool) (n : Nat) : Json :=
  if !negative then integer n
  else if 0 < n && n ≤ Nat.pow 2 63 then integer (-n)
  else real (.nearest true n)

/-- A number after its sign. Integer digits that do not fit the significand raise the exponent, and
those behind the point are dropped from the first that does not fit. -/
def number? (negative : Bool) (cs : List Char) : Option (Json × List Char) :=
  match cs with
  | [] => none
  | c :: rest =>
    if !c.isDigit || (c = '0' && rest.head?.any Char.isDigit) then none else
    let (significand, _, afterFit) := takeDigits 0 0 cs
    let lost := (afterFit.takeWhile Char.isDigit).length
    match afterFit.dropWhile Char.isDigit with
    | '.' :: places =>
      if !places.head?.any Char.isDigit then none else
      let (significand, count, rest) := takeDigits significand 0 places
      finishReal negative significand ((lost : Int) - count) (rest.dropWhile Char.isDigit)
    | c :: rest =>
      if c = 'e' || c = 'E' || lost ≠ 0 then finishReal negative significand lost (c :: rest)
      else some (integerValue negative significand, c :: rest)
    | [] =>
      if lost ≠ 0 then finishReal negative significand lost []
      else some (integerValue negative significand, [])

/-- The rest after a fixed word. -/
def afterWord? (word : String) (cs : List Char) : Option (List Char) :=
  if word.toList.isPrefixOf cs then some (cs.drop word.length) else none

mutual

/-- One value. `depth` is the number of containers that may still be opened. -/
def value? : Nat → Nat → List Char → Option (Json × List Char)
  | 0, _, _ => none
  | fuel + 1, depth, cs =>
    match skipSpace cs with
    | 'n' :: rest => (afterWord? "ull" rest).map (null, ·)
    | 't' :: rest => (afterWord? "rue" rest).map (bool true, ·)
    | 'f' :: rest => (afterWord? "alse" rest).map (bool false, ·)
    | '"' :: rest => (stringBody (rest.length + 1) [] rest).map fun (s, rest) => (text s, rest)
    | '-' :: rest => number? true rest
    | '[' :: rest =>
      if depth = 0 then none else
      match skipSpace rest with
      | ']' :: rest => some (array [], rest)
      | rest => (items? fuel (depth - 1) rest).map fun (items, rest) => (array items, rest)
    | '\x7b' :: rest =>
      if depth = 0 then none else
      match skipSpace rest with
      | '\x7d' :: rest => some (object [], rest)
      | rest => (fields? fuel (depth - 1) rest).map fun (fields, rest) => (ofFields fields, rest)
    | cs => number? false cs

/-- The values of an array, of which there is at least one, and its end. -/
def items? : Nat → Nat → List Char → Option (List Json × List Char)
  | 0, _, _ => none
  | fuel + 1, depth, cs =>
    match value? fuel depth cs with
    | none => none
    | some (item, rest) =>
      match skipSpace rest with
      | ']' :: rest => some ([item], rest)
      | ',' :: rest => (items? fuel depth rest).map fun (items, rest) => (item :: items, rest)
      | _ => none

/-- The fields of an object, of which there is at least one, and its end. -/
def fields? : Nat → Nat → List Char → Option (List (String × Json) × List Char)
  | 0, _, _ => none
  | fuel + 1, depth, cs =>
    match skipSpace cs with
    | '"' :: rest =>
      match stringBody (rest.length + 1) [] rest with
      | none => none
      | some (name, rest) =>
        match skipSpace rest with
        | ':' :: rest =>
          match value? fuel depth rest with
          | none => none
          | some (item, rest) =>
            match skipSpace rest with
            | '\x7d' :: rest => some ([(name, item)], rest)
            | ',' :: rest =>
              (fields? fuel depth rest).map fun (fields, rest) => ((name, item) :: fields, rest)
            | _ => none
        | _ => none
    | _ => none

end

/-- The greatest number of containers inside each other. -/
def depthLimit : Nat := 127

/-- Reads a text that holds one value and nothing else. -/
def read? (s : String) : Option Json :=
  let cs := s.toList
  match value? (2 * cs.length + 2) depthLimit cs with
  | some (j, rest) => if (skipSpace rest).isEmpty then some j else none
  | none => none

end Criteria.Json
