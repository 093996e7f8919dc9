import Criteria.Number.Double

/-!
The shortest decimal text of a floating-point number: among the decimals that round to the number,
one with the fewest digits, and of those the nearest. It is written out in full, without an
exponent.
-/
namespace Criteria.Number

/-- The value `digits * 10 ^ exponent`. -/
structure DecimalForm where
  digits : Nat
  exponent : Int
deriving DecidableEq, Repr

namespace DecimalForm

def toRat (d : DecimalForm) : Rat := d.digits * Rat.zpow 10 d.exponent

/-- Drops zeros at the end of the digits, at most `fuel` of them. -/
def strip : Nat → DecimalForm → DecimalForm
  | 0, d => d
  | fuel + 1, d =>
    if d.digits % 10 = 0 && d.digits ≠ 0 then strip fuel ⟨d.digits / 10, d.exponent + 1⟩ else d

/-- Digits in front of the point and behind it. -/
def positional (d : DecimalForm) : String :=
  let ds := Nat.toDigits 10 d.digits
  if d.exponent ≥ 0 then String.ofList (ds ++ List.replicate d.exponent.toNat '0')
  else
    let places := d.exponent.natAbs
    let padded := List.replicate (places + 1 - ds.length) '0' ++ ds
    let whole := padded.length - places
    String.ofList (padded.take whole ++ '.' :: padded.drop whole)

end DecimalForm

/-- The exponent of the first digit of a positive magnitude. -/
def leadingExponent (x : Rat) : Int :=
  let whole := x.num.natAbs / x.den
  if whole = 0 then -((Nat.toDigits 10 ((x.den - 1) / x.num.natAbs)).length : Int)
  else ((Nat.toDigits 10 whole).length : Int) - 1

namespace Double

/-- Whether a magnitude rounds to the finite code. -/
def roundsTo (code : Nat) (x : Rat) : Bool := codeOf x == code

/-- The decimal with the given last place nearest to the code's magnitude among its two neighbours
there, if one of them rounds to the code. The greater is taken on a tie. -/
def onGrid? (code : Nat) (place : Int) : Option DecimalForm :=
  let unit := Rat.zpow 10 place
  let x := magnitude code
  let below := (x / unit).floor.toNat
  let low : DecimalForm := ⟨below, place⟩
  let high : DecimalForm := ⟨below + 1, place⟩
  match below ≠ 0 && roundsTo code low.toRat, roundsTo code high.toRat with
  | true, true => if x - low.toRat < high.toRat - x then some low else some high
  | true, false => some low
  | false, true => some high
  | false, false => none

/-- Tries last places from `place` downward, at most `fuel` of them. -/
def firstGrid (code : Nat) : Nat → Int → DecimalForm
  | 0, place => ⟨0, place⟩
  | fuel + 1, place =>
    match onGrid? code place with
    | some d => d
    | none => firstGrid code fuel (place - 1)

/-- The shortest decimal that rounds to a finite code. Seventeen digits always suffice. -/
def shortest (code : Nat) : DecimalForm :=
  if code = 0 then ⟨0, 0⟩
  else (firstGrid code 17 (leadingExponent (magnitude code))).strip 17

/-- The text of a number. -/
def text : Double → String
  | nan => "NaN"
  | signed negative code _ =>
    (if negative then "-" else "") ++
      if code = infinityCode then "inf" else (shortest code).positional

end Double

end Criteria.Number
