import Criteria.Number.Decimal
import Criteria.Number.Double

/-!
Conversions between decimals and floating-point numbers. Neither is exact. From a decimal the whole
part and the places are converted apart, and the sum is rounded to the scale again. To a decimal the
factors of five are traded for factors of ten while the mantissa has room, and about sixteen digits
are kept.
-/
namespace Criteria.Number.Decimal

/-- The nearest floating-point magnitude, as a rational. -/
def rounded (x : Rat) : Rat := Double.magnitude (Double.codeOf x)

/-- Repeated squaring of ten with a rounding at each product; `power` is the square reached so
far. -/
def tenPowerAux : Nat → Nat → Rat → Rat → Rat
  | 0, _, acc, _ => acc
  | fuel + 1, n, acc, power =>
    if n = 0 then acc
    else tenPowerAux fuel (n / 2) (if n % 2 = 1 then rounded (acc * power) else acc)
      (if n / 2 = 0 then power else rounded (power * power))

/-- A power of ten in floating-point arithmetic. -/
def tenPower (n : Nat) : Rat := tenPowerAux n n 1 10

/-- Rounds a magnitude to an integer, a half upward. -/
def roundHalfUp (x : Rat) : Rat := (x + 1 / 2).floor

/-- The floating-point number for a decimal. -/
def toDouble (d : Decimal) : Double :=
  let unit := Nat.pow 10 d.scale
  let whole := rounded (d.mantissa / unit : Nat)
  let fraction := rounded (rounded (d.mantissa % unit : Nat) / rounded (unit : Nat))
  if fraction = 0 then Double.nearest d.negative whole
  else
    let unit := tenPower d.scale
    let scaled := rounded (rounded (whole + fraction) * unit)
    Double.nearest d.negative (roundHalfUp scaled / unit)

/-- Takes `n` factors of five into `m * 10 ^ e * 5 ^ n`: an even mantissa gives a two for each,
another one is multiplied while it has room, and loses its last bit when it has none. -/
def absorbFives : Nat → Nat → Int → Nat × Int
  | 0, m, e => (m, e)
  | n + 1, m, e =>
    if m % 2 = 0 then absorbFives n (m / 2) (e + 1)
    else if m * 5 < Nat.pow 2 96 then absorbFives n (m * 5) e
    else absorbFives n (m / 2) (e + 1)

/-- Divides `m * 10 ^ e` by `n` factors of five. A power of ten that is too great for what is left
has no decimal. -/
def divideFives : Nat → Nat → Int → Option (Nat × Int)
  | 0, m, e => some (m, e)
  | n + 1, m, e =>
    if m < Nat.pow 2 95 then divideFives n (m * 2) (e - 1)
    else if e * 2 > (n : Int) + 1 then none
    else divideFives n (m / 5) e

/-- Multiplies by a power of ten within the limit of the mantissa. -/
def appendZeros : Nat → Nat → Option Nat
  | 0, m => some m
  | n + 1, m => if m * 10 < Nat.pow 2 96 then appendZeros n (m * 10) else none

/-- The mantissa without its last digit, by which it is rounded. -/
def dropDigit (m : Nat) : Nat := m / 10 + (if m % 10 ≥ 5 then 1 else 0)

/-- Gives up `n` places. Nothing is left to round once the mantissa is a single digit. -/
def dropPlaces : Nat → Nat → Nat → Nat × Nat
  | 0, m, scale => (m, scale)
  | n + 1, m, scale => if m / 10 = 0 then (0, 0) else dropPlaces n (dropDigit m) (scale - 1)

/-- Gives up places until the mantissa is below `2 ^ 52`. -/
def fitDigits (m : Nat) : Nat → Nat × Nat
  | 0 => (m, 0)
  | scale + 1 => if m ≥ Nat.pow 2 52 then fitDigits (dropDigit m) scale else (m, scale + 1)

/-- Gives up places that are zero. -/
def stripZeros (m : Nat) : Nat → Nat × Nat
  | 0 => (m, 0)
  | scale + 1 => if m % 10 = 0 then stripZeros (m / 10) scale else (m, scale + 1)

/-- The decimal for `m * 10 ^ e`. -/
def ofPower (negative : Bool) (m : Nat) (e : Int) : Option Decimal :=
  if e > 0 then (appendZeros e.toNat m).bind fun m => make? negative m 0
  else
    let (m, scale) := dropPlaces (e.natAbs - 28) m e.natAbs
    let (m, scale) := fitDigits m scale
    let (m, scale) := stripZeros m scale
    make? negative m scale

/-- The decimal for a floating-point number, if it is finite and not too great. -/
def ofDouble? : Double → Option Decimal
  | .nan => none
  | .signed negative code _ =>
    if code = infinityCode then none
    else if code = 0 then make? negative 0 0
    else
      let e := Double.power code
      let m := Double.significand code
      if e ≤ 0 then
        let (m, e) := absorbFives e.natAbs m e
        ofPower negative m e
      else (divideFives e.toNat m e).bind fun (m, e) => ofPower negative m e

end Criteria.Number.Decimal
