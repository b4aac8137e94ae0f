import GraphEngine.Double.Nearest

/-!
Decimals `coefficient * 10 ^ exponent`, their digits, and the double each one is nearest to.
-/
namespace GraphEngine

structure Decimal where
  coefficient : Nat
  exponent : Int
deriving DecidableEq

namespace Decimal

def powerOfTen (exponent : Nat) : Nat := Nat.pow 10 exponent

/-- The digits of the coefficient without the zeros at its end; a zero has the one digit `0`. -/
def digits (d : Decimal) : List Char :=
  match ((Nat.toDigits 10 d.coefficient).reverse.dropWhile (· = '0')).reverse with
  | [] => ['0']
  | shown => shown

/-- Where the point stands: the value is `0.d₁d₂… * 10 ^ point`. -/
def point (d : Decimal) : Int :=
  if d.coefficient = 0 then 1 else (Nat.toDigits 10 d.coefficient).length + d.exponent

/--
The nearest double. Exponents beyond every double are settled first, so that no power of ten is
larger than the coefficient calls for.
-/
def toDouble (isNegative : Bool) (d : Decimal) : Double :=
  if d.coefficient = 0 then Double.nearest isNegative 0 1
  else if 310 < d.exponent then Double.infinity isNegative
  else if d.exponent < -(d.coefficient.log2 + 400) then Double.nearest isNegative 0 1
  else
    Double.nearest isNegative (d.coefficient * powerOfTen d.exponent.toNat)
      (powerOfTen (-d.exponent).toNat)

end Decimal
end GraphEngine
