import GraphEngine.Decimal.Scaled
import GraphEngine.Proofs.Decimal.ReadBack
import GraphEngine.Proofs.Double.Products

/-!
A decimal of few digits is read as the double nearest to it.

If the coefficient has at most 53 bits and the power of ten is one of the first 22, both are doubles
themselves, and of the steps of `scaledDouble` only the last one is rounded.
-/
namespace GraphEngine.Decimal

open Double (nearest)

/-- The powers of ten that are doubles. -/
def exactPower : Nat := 22

theorem hasValue_powerDouble {exponent : Nat} (h : exponent ≤ exactPower) :
    (powerDouble exponent).HasValue false (powerOfTen exponent) 1 := by
  have table : ∀ e ≤ exactPower, (powerDouble e).isNegative = false ∧
      (powerDouble e).numerator * 1 = powerOfTen e * (powerDouble e).denominator := by
    decide +kernel
  exact ⟨(table exponent h).1, (table exponent h).2⟩

/-- Few digits and a small power of ten. -/
structure IsShort (d : Decimal) : Prop where
  coefficient : d.coefficient < 2 * Double.exponentWeight
  low : -d.exponent ≤ exactPower
  high : d.exponent ≤ exactPower

theorem scaledDouble_eq_toDouble (isNegative : Bool) {d : Decimal} (h : d.IsShort) :
    d.scaledDouble isNegative = d.toDouble isNegative := by
  have low := h.low
  have high := h.high
  have whole := Double.hasValue_nearest isNegative h.coefficient
  rw [toDouble_eq_nearest]
  unfold scaledDouble
  by_cases zero : d.coefficient = 0
  · simp only [zero, if_true, Nat.zero_mul, nearest_zero]
  by_cases up : 0 ≤ d.exponent
  · have inTable : ¬ (greatestPower : Int) < d.exponent := by
      unfold exactPower at high
      unfold greatestPower
      omega
    have none : (-d.exponent).toNat = 0 := by omega
    have power := hasValue_powerDouble (show d.exponent.toNat ≤ exactPower by omega)
    simp only [zero, inTable, up, if_false, if_true]
    rw [Double.mul_of_hasValue whole power one_ne_zero one_ne_zero, Bool.bne_false, none]
    rfl
  · have inTable : -d.exponent ≤ (greatestPower : Int) := by
      unfold exactPower at low
      unfold greatestPower
      omega
    have notLarge : ¬ (greatestPower : Int) < d.exponent := by omega
    have none : d.exponent.toNat = 0 := by omega
    have power := hasValue_powerDouble (show (-d.exponent).toNat ≤ exactPower by omega)
    simp only [zero, notLarge, up, inTable, if_false, if_true]
    rw [Double.div_of_hasValue whole power one_ne_zero (powerOfTen_ne_zero _), Bool.bne_false, none,
      Nat.one_mul]
    rfl

end GraphEngine.Decimal
