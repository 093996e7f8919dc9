import Criteria.Number.Integer
import Criteria.Number.Double

/-!
Floating-point numbers read from texts: an optional sign, then `inf`, `infinity` or `nan` in any
case, or digits with at most one point among them and an optional exponent.
-/
namespace Criteria.Number

/-- Why a text is no floating-point number. -/
inductive DoubleFault where
  | empty
  | invalid
deriving DecidableEq, Repr

namespace DoubleFault

def message : DoubleFault → String
  | empty => "cannot parse float from empty string"
  | invalid => "invalid float literal"

end DoubleFault

/-- The number that digits stand for. -/
def digitsValue (ds : List Char) : Nat :=
  ds.foldl (fun acc c => acc * 10 + (c.toNat - 48)) 0

namespace Double

/-- The number nearest to `digits * 10 ^ exponent`. Exponents far outside the range are settled
without the power. -/
def ofDecimal (negative : Bool) (digits : Nat) (exponent : Int) : Double :=
  if digits = 0 then zero negative else
    let leading := exponent + (Nat.toDigits 10 digits).length
    if leading > 310 then infinity negative
    else if leading < -330 then zero negative
    else nearest negative (digits * Rat.zpow 10 exponent)

/-- An exponent: an optional sign and at least one digit. -/
def readExponent : List Char → Option Int
  | '+' :: ds => if ds ≠ [] && ds.all Char.isDigit then some (digitsValue ds) else none
  | '-' :: ds => if ds ≠ [] && ds.all Char.isDigit then some (-(digitsValue ds : Int)) else none
  | ds => if ds ≠ [] && ds.all Char.isDigit then some (digitsValue ds) else none

/-- Digits with an optional point and an optional exponent. -/
def readUnsigned (negative : Bool) (cs : List Char) : Option Double :=
  let whole := cs.takeWhile Char.isDigit
  let afterWhole := cs.dropWhile Char.isDigit
  let (fraction, rest) := match afterWhole with
    | '.' :: r => (r.takeWhile Char.isDigit, r.dropWhile Char.isDigit)
    | r => ([], r)
  let number (exponent : Int) :=
    ofDecimal negative (digitsValue (whole ++ fraction)) (exponent - fraction.length)
  if whole.isEmpty && fraction.isEmpty then none else
  match rest with
  | [] => some (number 0)
  | e :: r => if e = 'e' || e = 'E' then (readExponent r).map number else none

/-- A word for a number that has no digits. -/
def readWord (negative : Bool) (cs : List Char) : Option Double :=
  let word := String.ofList (cs.map Char.toLower)
  if word = "inf" || word = "infinity" then some (infinity negative)
  else if word = "nan" then some nan
  else none

def readMagnitude (negative : Bool) (cs : List Char) : Option Double :=
  (readUnsigned negative cs).or (readWord negative cs)

/-- Reads a floating-point number. -/
def read : List Char → Except DoubleFault Double
  | [] => .error .empty
  | cs =>
    let number := match cs with
      | '+' :: rest => readMagnitude false rest
      | '-' :: rest => readMagnitude true rest
      | _ => readMagnitude false cs
    match number with
    | some x => .ok x
    | none => .error .invalid

def read? (cs : List Char) : Option Double := (read cs).toOption

end Double

end Criteria.Number
