/-!
Integers as texts: an optional sign and decimal digits, read into a range of whole numbers.
-/
namespace Criteria.Number

/-- The digit that a character stands for. -/
def digit? (c : Char) : Option Nat := if c.isDigit then some (c.toNat - 48) else none

/-- Why a text is no integer of the wanted range. -/
inductive IntegerFault where
  | empty
  | invalidDigit
  | tooLarge
  | tooSmall
deriving DecidableEq, Repr

namespace IntegerFault

def message : IntegerFault → String
  | empty => "cannot parse integer from empty string"
  | invalidDigit => "invalid digit found in string"
  | tooLarge => "number too large to fit in target type"
  | tooSmall => "number too small to fit in target type"

end IntegerFault

/-- A closed range of whole numbers that holds zero. -/
structure IntegerRange where
  least : Int
  greatest : Nat
  least_nonpos : least ≤ 0 := by decide

namespace IntegerRange

def int64 : IntegerRange := { least := -Int.pow 2 63, greatest := Nat.pow 2 63 - 1 }
def uint32 : IntegerRange := { least := 0, greatest := Nat.pow 2 32 - 1 }
def uint8 : IntegerRange := { least := 0, greatest := Nat.pow 2 8 - 1 }

/-- Appends digits to `acc`. The first character that is no digit, or that takes the number past
`bound`, is the fault. -/
def magnitude (bound : Nat) (outside : IntegerFault) : Nat → List Char → Except IntegerFault Nat
  | acc, [] => .ok acc
  | acc, c :: rest =>
    match digit? c with
    | none => .error .invalidDigit
    | some d => if acc * 10 + d ≤ bound then magnitude bound outside (acc * 10 + d) rest
      else .error outside

@[simp] theorem magnitude_nil (bound : Nat) (outside : IntegerFault) (acc : Nat) :
    magnitude bound outside acc [] = .ok acc := rfl

/-- Digits without a sign. There is at least one. -/
def digits (bound : Nat) (outside : IntegerFault) : List Char → Except IntegerFault Nat
  | [] => .error .invalidDigit
  | cs => magnitude bound outside 0 cs

/-- Reads an integer of the range. A minus sign is only a sign where the range has negative
numbers. -/
def read (r : IntegerRange) : List Char → Except IntegerFault Int
  | [] => .error .empty
  | '+' :: rest => (digits r.greatest .tooLarge rest).map Int.ofNat
  | '-' :: rest =>
    if r.least < 0 then (digits r.least.natAbs .tooSmall rest).map fun n => -(n : Int)
    else .error .invalidDigit
  | cs => (digits r.greatest .tooLarge cs).map Int.ofNat

end IntegerRange

/-- The signed 64-bit number nearest to `n`. -/
def clamp64 (n : Int) : Int64 := Int64.ofInt (max (-Int.pow 2 63) (min n (Int.pow 2 63 - 1)))

/-- Reads a signed 64-bit integer. -/
def int64? (cs : List Char) : Option Int64 :=
  (IntegerRange.int64.read cs).toOption.map Int64.ofInt

end Criteria.Number
