import Criteria.Number.Decimals
import Criteria.Number.DoubleText
import Criteria.Number.Shortest
import Criteria.Text.Blank
import Criteria.Text.Lowercase
import Criteria.Text.Search

/-!
Typed scalars. A literal becomes the most specific value that its text allows, a value can be viewed
as a number of each sort, and two values are put in order: numbers by size, truth values false
first, and texts, with whatever they meet, by their small-letter forms.
-/
namespace Criteria

open Number (Decimals Double clamp64 int64?)
open Text (trim eqIgnoringAsciiCase lowercase)

inductive Value where
  | int (n : Int64)
  | float (x : Double)
  | text (s : String)
  | bool (b : Bool)
deriving DecidableEq

namespace Value

/-- The truth value that a text names, in any case. -/
def bool? (s : String) : Option Bool :=
  if eqIgnoringAsciiCase s "true" then some true
  else if eqIgnoringAsciiCase s "false" then some false
  else none

/-- The value of a literal: a truth value, an integer, a number, or else its text. -/
def ofLiteral [Decimals] (literal : String) : Value :=
  let cs := trim literal.toList
  let s := String.ofList cs
  match bool? s, int64? cs, (Decimals.read? cs).bind Decimals.toDouble? with
  | some b, _, _ => bool b
  | none, some n, _ => int n
  | none, none, some x => float x
  | none, none, none => text s

def typeName : Value → String
  | int _ => "integer"
  | float _ => "float"
  | text _ => "string"
  | bool _ => "boolean"

/-- The value as an integer. A floating-point number has to be whole, and goes to the nearest
integer there is. -/
def asInt : Value → Option Int64
  | int n => some n
  | float x => x.whole?.map clamp64
  | text s => int64? (trim s.toList)
  | bool _ => none

/-- The value as a floating-point number. -/
def asFloat : Value → Option Double
  | int n => some (Double.ofInt n.toInt)
  | float x => some x
  | text s => Double.read? (trim s.toList)
  | bool _ => none

/-- The value as a decimal. -/
def asDecimal [Decimals] : Value → Option Decimals.Carrier
  | int n => some (Decimals.ofInt64 n)
  | float x => Decimals.ofDouble? x
  | text s => Decimals.read? (trim s.toList)
  | bool _ => none

/-- The value as a truth value. Every integer but zero is true. -/
def asBool : Value → Option Bool
  | bool b => some b
  | int n => some (n != 0)
  | text s => bool? s
  | float _ => none

/-- The text of a value. -/
def asText : Value → String
  | int n => toString n.toInt
  | float x => x.text
  | text s => s
  | bool b => if b then "true" else "false"

/-- Order of two numbers: by their decimals, or as floating-point numbers where one of them has no
decimal. -/
def numberOrder? [Decimals] (a b : Value) : Option Ordering :=
  match a.asDecimal, b.asDecimal with
  | some x, some y => some (Decimals.order x y)
  | _, _ => a.asFloat.bind fun x => b.asFloat.bind fun y => x.order? y

/-- Order of two texts by their small-letter forms. -/
def textOrder (s t : String) : Ordering := Text.order (lowercase s) (lowercase t)

/-- The order of two values. A truth value and a number have none. -/
def order? [Decimals] : Value → Value → Option Ordering
  | int a, int b => some (compare a.toInt b.toInt)
  | bool a, bool b => some (compare a.toNat b.toNat)
  | text s, v => some (textOrder s v.asText)
  | v, text s => some (textOrder v.asText s)
  | bool _, _ => none
  | _, bool _ => none
  | a, b => numberOrder? a b

end Value

end Criteria
