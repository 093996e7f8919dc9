import Criteria.Number.Decimal

/-!
Decimals read from texts. Digits may be parted by underscores and hold one point. What does not fit
behind the point is rounded away once, by the first digit that does not fit; what does not fit in
front of it is an error. A text that is no plain number may still be one with an exponent.
-/
namespace Criteria.Number.Decimal

/-- Whether the digits before the last one take more than 64 bits with another digit behind them. -/
def isWide (mantissa : Nat) : Bool := (Nat.pow 2 64 - 1) / 10 - 255 ≤ mantissa / 10

/-- The digit by which the rest is rounded away. A separator and a second point count as zero. -/
def roundingDigit? (c : Char) : Option Nat := if c = '_' || c = '.' then some 0 else digit? c

/-- Adds one to the last place. A mantissa that leaves its limit gives up that place. -/
def roundUp (negative : Bool) (mantissa scale : Nat) : Option Decimal :=
  if mantissa + 1 < Nat.pow 2 96 then make? negative (mantissa + 1) scale
  else if scale = 0 then none
  else make? negative ((mantissa + 5) / 10) (scale - 1)

/-- Ends a number at digits that do not fit. They still have to be digits. -/
def cutOff (negative : Bool) (mantissa scale : Nat) (c : Char) (rest : List Char) :
    Option Decimal :=
  match roundingDigit? c with
  | none => none
  | some d =>
    if rest.all fun c => c.isDigit || c = '_' then
      if d ≥ 5 then roundUp negative mantissa scale
      else make? (negative && mantissa ≠ 0) mantissa scale
    else none

/-- Ends a number that has all its places. Behind many digits separators are passed over to the
digit that rounds. -/
def endPlaces (negative : Bool) (mantissa scale : Nat) (c : Char) (rest : List Char) :
    Option Decimal :=
  if c = '_' && isWide mantissa then
    match rest.dropWhile (· = '_') with
    | [] => make? (negative && mantissa ≠ 0) mantissa scale
    | d :: rest => if d.isDigit then cutOff negative mantissa scale d rest else none
  else cutOff negative mantissa scale c rest

/-- Reads on from a number of which digits, a point and the first digit may have been seen. -/
def readOn (negative point started : Bool) (mantissa scale : Nat) : List Char → Option Decimal
  | [] => if started then make? (negative && mantissa ≠ 0) mantissa scale else none
  | c :: rest =>
    if scale = 28 then endPlaces negative mantissa scale c rest
    else match digit? c with
    | some d =>
      if mantissa * 10 + d < Nat.pow 2 96 then
        readOn negative point true (mantissa * 10 + d) (if point then scale + 1 else scale) rest
      else if point then cutOff negative mantissa scale c rest
      else none
    | none =>
      if c = '.' && !point then readOn negative true started mantissa scale rest
      else if c = '_' && started then readOn negative point started mantissa scale rest
      else none

/-- A number without an exponent. -/
def readPlain : List Char → Option Decimal
  | '-' :: rest => readOn true false false 0 0 rest
  | '+' :: rest => readOn false false false 0 0 rest
  | cs => readOn false false false 0 0 cs

/-- Keeps at most the given number of places; the first one lost rounds the rest, five upward. -/
def keepPlaces (places mantissa scale : Nat) : Nat × Nat :=
  if scale ≤ places then (mantissa, scale)
  else
    let cut := mantissa / Nat.pow 10 (scale - places - 1)
    (cut / 10 + (if cut % 10 ≥ 5 then 1 else 0), places)

/-- Divides by a power of ten, which moves the point to the left. -/
def shrink (d : Decimal) (exponent : Nat) : Option Decimal :=
  if exponent > 28 then none
  else
    let (mantissa, scale) := keepPlaces (28 - exponent) d.mantissa d.scale
    make? d.negative mantissa (scale + exponent)

/-- Multiplies by a power of ten, which moves the point to the right and then adds zeros. -/
def grow (d : Decimal) (exponent : Nat) : Option Decimal :=
  if exponent ≤ d.scale then make? d.negative d.mantissa (d.scale - exponent)
  else if exponent > 28 then none
  else make? d.negative (d.mantissa * Nat.pow 10 (exponent - d.scale)) 0

/-- A plain number, `e` or `E`, and an exponent. -/
def readScientific (cs : List Char) : Option Decimal :=
  let isMark (c : Char) := c = 'e' || c = 'E'
  match cs.span (!isMark ·) with
  | (_, []) => none
  | (base, _ :: exponent) =>
    match readPlain base, exponent with
    | none, _ => none
    | some d, '-' :: ds => (IntegerRange.uint32.read ds).toOption.bind fun n => d.shrink n.toNat
    | some d, ds => (IntegerRange.uint32.read ds).toOption.bind fun n => d.grow n.toNat

/-- Reads a decimal. -/
def read? (cs : List Char) : Option Decimal := (readPlain cs).or (readScientific cs)

end Criteria.Number.Decimal
