import Criteria.Number.Double

/-!
Decimals as a parameter. Whoever compares numbers brings a type of decimals along, with their order
and with the conversions from integers, floating-point numbers and texts.
-/
namespace Criteria.Number

/-- A type of decimals and what is done with them. -/
class Decimals where
  Carrier : Type
  /-- Every integer has a decimal. -/
  ofInt64 : Int64 → Carrier
  /-- The decimal for a floating-point number, if there is one. -/
  ofDouble? : Double → Option Carrier
  /-- The decimal that a text is, if it is one. -/
  read? : List Char → Option Carrier
  /-- The floating-point number for a decimal, if there is one. -/
  toDouble? : Carrier → Option Double
  order : Carrier → Carrier → Ordering

end Criteria.Number
