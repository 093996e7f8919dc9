/-!
Floating-point numbers of double precision. A number is a sign and a magnitude code; the codes run
through the magnitudes in their order, from zero to infinity, so numbers are compared by their
codes. Arithmetic is exact on rationals and rounds once, to the nearest number and to the even code
on a tie.
-/
namespace Criteria.Number

/-- The code of infinity, which is the greatest. -/
def infinityCode : Nat := 2047 * Nat.pow 2 52

/-- A double-precision number. -/
inductive Double where
  | nan
  | signed (negative : Bool) (code : Nat) (code_le : code ≤ infinityCode)
deriving DecidableEq

namespace Double

/-- The integer that a finite code scales by a power of two. -/
def significand (code : Nat) : Nat :=
  if code < Nat.pow 2 52 then code else code % Nat.pow 2 52 + Nat.pow 2 52

/-- The power of two by which a finite code scales its significand. -/
def power (code : Nat) : Int :=
  if code < Nat.pow 2 52 then -1074 else (code / Nat.pow 2 52 : Int) - 1075

/-- The magnitude of a finite code. -/
def magnitude (code : Nat) : Rat := significand code * Rat.zpow 2 (power code)

/-- The quotient rounded to the nearest integer, a tie to the even one. -/
def divNearest (num den : Nat) : Nat :=
  let q := num / den
  let twice := 2 * (num % den)
  if twice < den || (twice == den && q % 2 == 0) then q else q + 1

/-- The power of two for which `num / den` has 53 significant binary digits, but no less than the
least power. -/
def powerFor (num den : Nat) : Int :=
  let guess := (Nat.log2 num : Int) - Nat.log2 den - 52
  let fits := if guess < 0 then num * Nat.pow 2 guess.natAbs < den * Nat.pow 2 52
    else num < den * Nat.pow 2 guess.natAbs * Nat.pow 2 52
  max (-1074) (if fits then guess - 1 else guess)

/-- The code nearest to a magnitude that is no less than zero. A carry out of the significand moves
on to the next power by itself, because the codes are consecutive. -/
def codeOf (x : Rat) : Nat :=
  let num := x.num.natAbs
  if num = 0 then 0 else
    let p := powerFor num x.den
    let m := if p < 0 then divNearest (num * Nat.pow 2 p.natAbs) x.den
      else divNearest num (x.den * Nat.pow 2 p.natAbs)
    min ((p + 1074).toNat * Nat.pow 2 52 + m) infinityCode

theorem codeOf_le (x : Rat) : codeOf x ≤ infinityCode := by
  unfold codeOf
  simp only
  split
  · exact Nat.zero_le _
  · exact Nat.min_le_right _ _

/-- The number of the given sign nearest to a magnitude. -/
def nearest (negative : Bool) (x : Rat) : Double := signed negative (codeOf x) (codeOf_le x)

def zero (negative : Bool) : Double := signed negative 0 (Nat.zero_le _)

def infinity (negative : Bool) : Double := signed negative infinityCode (Nat.le_refl _)

/-- The nearest number to a whole number. -/
def ofInt (n : Int) : Double := nearest (n < 0) n.natAbs

/-- The exact value of a finite number. -/
def toRat? : Double → Option Rat
  | nan => none
  | signed negative code _ =>
    if code = infinityCode then none
    else some (if negative then -magnitude code else magnitude code)

/-- The whole number that a finite number is, if it is one. -/
def whole? (x : Double) : Option Int :=
  x.toRat?.bind fun r => if r.den = 1 then some r.num else none

/-- Place in the order: codes to the right of zero, mirrored on its left. -/
def rank (negative : Bool) (code : Nat) : Int := if negative then -(code : Int) else code

/-- Order of numbers. Both zeros are equal, and a number that is none has no order. -/
def order? : Double → Double → Option Ordering
  | signed s a _, signed t b _ => some (compare (rank s a) (rank t b))
  | _, _ => none

@[simp] theorem order?_nan_left (x : Double) : order? nan x = none := by cases x <;> rfl
@[simp] theorem order?_nan_right (x : Double) : order? x nan = none := by cases x <;> rfl

/-- Whether the number is zero. -/
def isZero : Double → Bool
  | nan => false
  | signed _ code _ => code == 0

end Double

end Criteria.Number
