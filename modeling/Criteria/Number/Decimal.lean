import Criteria.Number.Integer

/-!
Decimal numbers of limited size: a sign, a mantissa below `2 ^ 96` and a scale, the number of places
behind the point, of at most 28. Two decimals are compared by their values, whatever their scales.
-/
namespace Criteria.Number

structure Decimal where
  negative : Bool
  mantissa : Nat
  scale : Nat
  mantissa_lt : mantissa < Nat.pow 2 96
  scale_le : scale ≤ 28
deriving DecidableEq

namespace Decimal

/-- The decimal with these parts, if they are within the limits. -/
def make? (negative : Bool) (mantissa scale : Nat) : Option Decimal :=
  if h : mantissa < Nat.pow 2 96 ∧ scale ≤ 28 then some ⟨negative, mantissa, scale, h.1, h.2⟩ else none

theorem natAbs_toInt_lt (n : Int64) : n.toInt.natAbs < Nat.pow 2 96 := by
  have h := n.toInt_lt
  have h' := n.le_toInt
  have hbound : Nat.pow 2 96 = 79228162514264337593543950336 := rfl
  omega

def ofInt64 (n : Int64) : Decimal where
  negative := n < 0
  mantissa := n.toInt.natAbs
  scale := 0
  mantissa_lt := natAbs_toInt_lt n
  scale_le := Nat.zero_le _

/-- The mantissa with its sign. -/
def signed (d : Decimal) : Int := if d.negative then -(d.mantissa : Int) else d.mantissa

/-- The exact value. -/
def toRat (d : Decimal) : Rat := d.signed / ((Nat.pow 10 d.scale : Nat) : Rat)

/-- Order by value: both mantissas are brought to the greatest scale. -/
def order (a b : Decimal) : Ordering :=
  compare (a.signed * Int.pow 10 (28 - a.scale)) (b.signed * Int.pow 10 (28 - b.scale))

/-- All places of the scale are written, zeros included. -/
def text (d : Decimal) : String :=
  let ds := Nat.toDigits 10 d.mantissa
  let padded := List.replicate (d.scale + 1 - ds.length) '0' ++ ds
  let whole := padded.take (padded.length - d.scale)
  let places := padded.drop (padded.length - d.scale)
  (if d.negative then "-" else "") ++
    String.ofList (if places.isEmpty then whole else whole ++ '.' :: places)

end Decimal

end Criteria.Number
