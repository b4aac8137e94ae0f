import GraphEngine.Decimal.Basic

/-!
The double that a decimal is read as by way of a table of powers of ten.

The coefficient becomes a double first, which is then multiplied or divided by a power of ten that
is a double itself. Each of these steps is rounded, so the outcome need not be the double nearest
to the decimal.
-/
namespace GraphEngine.Decimal

/-- The exponent of the greatest power of ten in the table. -/
def greatestPower : Nat := 308

def powerDouble (exponent : Nat) : Double := Double.nearest false (powerOfTen exponent) 1

/-- What is too large becomes an infinity. More divisions than these two leave nothing. -/
def scaledDouble (isNegative : Bool) (d : Decimal) : Double :=
  let whole := Double.nearest isNegative d.coefficient 1
  if d.coefficient = 0 then whole
  else if greatestPower < d.exponent then Double.infinity isNegative
  else if 0 ≤ d.exponent then whole.mul (powerDouble d.exponent.toNat)
  else if -d.exponent ≤ greatestPower then whole.div (powerDouble (-d.exponent).toNat)
  else if -d.exponent ≤ 2 * greatestPower then
    (whole.div (powerDouble greatestPower)).div
      (powerDouble ((-d.exponent).toNat - greatestPower))
  else Double.nearest isNegative 0 1

end GraphEngine.Decimal
