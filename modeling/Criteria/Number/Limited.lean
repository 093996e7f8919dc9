import Criteria.Number.DecimalDouble
import Criteria.Number.DecimalText
import Criteria.Number.Decimals

/-!
The decimals of limited size, which the program compares numbers by.
-/
namespace Criteria.Number

instance Decimal.limited : Decimals where
  Carrier := Decimal
  ofInt64 := Decimal.ofInt64
  ofDouble? := Decimal.ofDouble?
  read? := Decimal.read?
  toDouble? d := some d.toDouble
  order := Decimal.order

end Criteria.Number
