import Mathlib
import GraphEngine.Double.Nearest

/-!
The nearest double depends on the value of a fraction alone, and a finite double is the nearest one
to its own value.

The value of a fraction is taken in the rationals, where the exponent that `nearest` starts from
is the binary logarithm.
-/
namespace GraphEngine.Double

theorem shiftLeft_toNat_le_iff (num den : Nat) (hd : 0 < den) (e : Int) :
    den <<< e.toNat ≤ num <<< (-e).toNat ↔ (2 : ℚ) ^ e ≤ num / den := by
  have hd' : (0 : ℚ) < den := by exact_mod_cast hd
  have power : (2 : ℚ) ^ e * 2 ^ (-e).toNat = 2 ^ e.toNat := by
    rw [← zpow_natCast, ← zpow_natCast, ← zpow_add₀ two_ne_zero]
    congr 1
    omega
  have positive : (0 : ℚ) < 2 ^ (-e).toNat := by positivity
  rw [le_div_iff₀ hd', Nat.shiftLeft_eq, Nat.shiftLeft_eq]
  calc den * 2 ^ e.toNat ≤ num * 2 ^ (-e).toNat
      ↔ (den : ℚ) * 2 ^ e.toNat ≤ num * 2 ^ (-e).toNat := by exact_mod_cast Iff.rfl
    _ ↔ (2 : ℚ) ^ e * den * 2 ^ (-e).toNat ≤ num * 2 ^ (-e).toNat := by
        rw [← power, mul_left_comm, mul_assoc]
    _ ↔ (2 : ℚ) ^ e * den ≤ num := mul_le_mul_iff_of_pos_right positive

theorem zpow_log2_le {n : Nat} (h : n ≠ 0) : (2 : ℚ) ^ (n.log2 : Int) ≤ n := by
  rw [zpow_natCast]
  exact_mod_cast Nat.log2_self_le h

theorem lt_zpow_log2 (n : Nat) : (n : ℚ) < 2 ^ ((n.log2 : Int) + 1) := by
  have : ((n.log2 : Int) + 1) = ((n.log2 + 1 : Nat) : Int) := by push_cast; rfl
  rw [this, zpow_natCast]
  exact_mod_cast Nat.lt_log2_self

theorem binaryExponent_eq_log {num den : Nat} (hn : num ≠ 0) (hd : den ≠ 0) :
    binaryExponent num den = Int.log 2 ((num : ℚ) / den) := by
  have hd' : (0 : ℚ) < den := by exact_mod_cast Nat.pos_of_ne_zero hd
  have hn' : (0 : ℚ) < num := by exact_mod_cast Nat.pos_of_ne_zero hn
  have ratio : (0 : ℚ) < num / den := div_pos hn' hd'
  have below : (num : ℚ) / den < 2 ^ ((num.log2 : Int) - den.log2 + 1) := by
    rw [div_lt_iff₀ hd']
    calc (num : ℚ) < 2 ^ ((num.log2 : Int) + 1) := lt_zpow_log2 num
      _ = 2 ^ ((num.log2 : Int) - den.log2 + 1) * 2 ^ (den.log2 : Int) := by
          rw [← zpow_add₀ two_ne_zero]
          congr 1
          omega
      _ ≤ 2 ^ ((num.log2 : Int) - den.log2 + 1) * den :=
          mul_le_mul_of_nonneg_left (zpow_log2_le hd) (by positivity)
  have above : (2 : ℚ) ^ ((num.log2 : Int) - den.log2 - 1) ≤ num / den := by
    rw [le_div_iff₀ hd']
    calc (2 : ℚ) ^ ((num.log2 : Int) - den.log2 - 1) * den
        ≤ 2 ^ ((num.log2 : Int) - den.log2 - 1) * 2 ^ ((den.log2 : Int) + 1) :=
          mul_le_mul_of_nonneg_left (lt_zpow_log2 den).le (by positivity)
      _ = 2 ^ (num.log2 : Int) := by
          rw [← zpow_add₀ two_ne_zero]
          congr 1
          omega
      _ ≤ num := zpow_log2_le hn
  have atMost : Int.log 2 ((num : ℚ) / den) < (num.log2 : Int) - den.log2 + 1 :=
    (Int.lt_zpow_iff_log_lt one_lt_two ratio).mp below
  have atLeast : (num.log2 : Int) - den.log2 - 1 ≤ Int.log 2 ((num : ℚ) / den) :=
    (Int.zpow_le_iff_le_log one_lt_two ratio).mp above
  have guess := shiftLeft_toNat_le_iff num den (Nat.pos_of_ne_zero hd)
    ((num.log2 : Int) - den.log2)
  have reached : (2 : ℚ) ^ ((num.log2 : Int) - den.log2) ≤ num / den ↔
      (num.log2 : Int) - den.log2 ≤ Int.log 2 ((num : ℚ) / den) :=
    Int.zpow_le_iff_le_log one_lt_two ratio
  simp only [binaryExponent, guess, reached]
  split <;> omega

theorem roundHalfEven_mul {factor : Nat} (h : 0 < factor) (num den : Nat) :
    roundHalfEven (num * factor) (den * factor) = roundHalfEven num den := by
  have lt : 2 * (num % den * factor) < den * factor ↔ 2 * (num % den) < den := by
    rw [← Nat.mul_assoc]
    exact Nat.mul_lt_mul_right h
  have eq : 2 * (num % den * factor) = den * factor ↔ 2 * (num % den) = den := by
    rw [← Nat.mul_assoc]
    exact Nat.mul_left_inj h.ne'
  simp only [roundHalfEven, Nat.mul_div_mul_right _ _ h, Nat.mul_mod_mul_right, lt, eq]

theorem shiftLeft_mul (n factor count : Nat) : (n * factor) <<< count = n <<< count * factor := by
  rw [Nat.shiftLeft_eq, Nat.shiftLeft_eq, Nat.mul_right_comm]

theorem nearest_mul {factor : Nat} (h : 0 < factor) (isNegative : Bool) (num : Nat) {den : Nat}
    (hd : den ≠ 0) :
    nearest isNegative (num * factor) (den * factor) = nearest isNegative num den := by
  by_cases hn : num = 0
  · simp [nearest, hn]
  · have value : ((num * factor : Nat) : ℚ) / (den * factor : Nat) = num / den := by
      push_cast
      exact mul_div_mul_right _ _ (by exact_mod_cast h.ne')
    have exponent : binaryExponent (num * factor) (den * factor) = binaryExponent num den := by
      rw [binaryExponent_eq_log (Nat.mul_ne_zero hn h.ne') (Nat.mul_ne_zero hd h.ne'),
        binaryExponent_eq_log hn hd, value]
    simp only [nearest, Nat.mul_eq_zero, hn, h.ne', or_self, if_false, exponent, shiftLeft_mul,
      roundHalfEven_mul h]

/-- Equal values have one nearest double. -/
theorem nearest_congr (isNegative : Bool) {num den num' den' : Nat} (hd : den ≠ 0) (hd' : den' ≠ 0)
    (h : num * den' = num' * den) :
    nearest isNegative num den = nearest isNegative num' den' := by
  rw [← nearest_mul (Nat.pos_of_ne_zero hd') isNegative num hd,
    ← nearest_mul (Nat.pos_of_ne_zero hd) isNegative num' hd', h, Nat.mul_comm den den']

theorem bits_eq_fields (d : Double) :
    d.bits.toNat = (if d.isNegative then signWeight else 0) +
      (d.exponentField * exponentWeight + d.fractionField) := by
  have size := d.bits.toNat_lt
  by_cases h : signWeight ≤ d.bits.toNat
  · have sign : d.isNegative = true := decide_eq_true h
    rw [if_pos sign]
    simp only [exponentField, fractionField, signWeight, exponentWeight] at h ⊢
    omega
  · have sign : ¬ d.isNegative = true := fun negative => h (of_decide_eq_true negative)
    rw [if_neg sign]
    simp only [exponentField, fractionField, signWeight, exponentWeight] at h ⊢
    omega

theorem ofFields_fields (d : Double) :
    ofFields d.isNegative (d.exponentField * exponentWeight + d.fractionField) = d := by
  rw [ofFields, ← bits_eq_fields, UInt64.ofNat_toNat]

theorem fractionField_lt (d : Double) : d.fractionField < exponentWeight :=
  Nat.mod_lt _ (by decide)

theorem significand_lt (d : Double) : d.significand < 2 * exponentWeight := by
  have := d.fractionField_lt
  unfold significand
  split <;> omega

theorem leastScale_le_scale (d : Double) : leastScale ≤ d.scale := by
  unfold leastScale scale
  omega

theorem scale_le_greatestScale {d : Double} (h : d.isFinite = true) : d.scale ≤ greatestScale := by
  have field : d.exponentField < 2048 := Nat.mod_lt _ (by decide)
  have finite : d.exponentField ≠ 2047 := by simpa [isFinite] using h
  unfold greatestScale scale
  omega

/-- Below the least scale there is nothing, and above it the highest bit is set. -/
theorem scale_eq_leastScale_or (d : Double) :
    d.scale = leastScale ∨ exponentWeight ≤ d.significand := by
  by_cases h : d.exponentField = 0
  · left
    simp [scale, h, leastScale]
  · right
    simp [significand, h]

theorem ofSignificand_own (d : Double) :
    ofSignificand d.isNegative d.significand d.scale = d := by
  have fraction := d.fractionField_lt
  have whole := d.significand_lt
  by_cases h : d.exponentField = 0
  · have fields : d.significand = d.exponentField * exponentWeight + d.fractionField := by
      simp [significand, h]
    have small : d.significand < exponentWeight := by
      simpa [significand, h] using fraction
    rw [ofSignificand, if_pos small, fields, ofFields_fields]
  · have normal : d.significand = exponentWeight + d.fractionField := by
      simp [significand, h]
    have exponent : (d.scale + 1074).toNat + 1 = d.exponentField := by
      unfold scale
      omega
    have fields : (d.scale + 1074).toNat * exponentWeight + d.significand =
        d.exponentField * exponentWeight + d.fractionField := by
      rw [← exponent, normal, Nat.add_mul]
      omega
    rw [ofSignificand, if_neg (by omega), if_neg (by omega), fields, ofFields_fields]

theorem log_significand {significand : Nat} (h : significand ≠ 0) (scale : Int) :
    Int.log 2 ((significand : ℚ) * 2 ^ scale) = significand.log2 + scale := by
  have positive : (0 : ℚ) < significand * 2 ^ scale := by
    have : (0 : ℚ) < significand := by exact_mod_cast Nat.pos_of_ne_zero h
    positivity
  have atLeast : (significand.log2 : Int) + scale ≤ Int.log 2 ((significand : ℚ) * 2 ^ scale) := by
    refine (Int.zpow_le_iff_le_log one_lt_two positive).mp ?_
    rw [Nat.cast_ofNat, zpow_add₀ two_ne_zero]
    exact mul_le_mul_of_nonneg_right (zpow_log2_le h) (by positivity)
  have atMost : Int.log 2 ((significand : ℚ) * 2 ^ scale) < significand.log2 + 1 + scale := by
    refine (Int.lt_zpow_iff_log_lt one_lt_two positive).mp ?_
    rw [Nat.cast_ofNat, zpow_add₀ two_ne_zero]
    exact mul_lt_mul_of_pos_right (lt_zpow_log2 _) (by positivity)
  omega

theorem roundHalfEven_exact {den : Nat} (h : 0 < den) (n : Nat) :
    roundHalfEven (n * den) den = n := by
  simp [roundHalfEven, Nat.mul_div_cancel _ h, h]

/-- The scale at which a double's own value is rounded is its own. -/
theorem scale_own {d : Double} (h : d.significand ≠ 0) :
    max leastScale (d.significand.log2 + d.scale - 52) = d.scale := by
  have low := d.leastScale_le_scale
  have width : d.significand.log2 < 53 := (Nat.log2_lt h).mpr d.significand_lt
  rcases d.scale_eq_leastScale_or with least | normal
  · omega
  · have : 52 ≤ d.significand.log2 := (Nat.le_log2 h).mpr normal
    omega

theorem nearest_own {d : Double} (finite : d.isFinite = true) (h : d.significand ≠ 0) :
    nearest d.isNegative (d.significand <<< d.scale.toNat) (1 <<< (-d.scale).toNat) = d := by
  have power : ∀ count : Nat, 0 < 1 <<< count := by
    intro count
    rw [Nat.shiftLeft_eq]
    positivity
  have num : d.significand <<< d.scale.toNat ≠ 0 := by
    rw [Nat.shiftLeft_eq]
    positivity
  have value : ((d.significand <<< d.scale.toNat : Nat) : ℚ) / (1 <<< (-d.scale).toNat : Nat) =
      d.significand * 2 ^ d.scale := by
    rw [Nat.shiftLeft_eq, Nat.shiftLeft_eq, div_eq_iff (by positivity)]
    push_cast
    rw [one_mul, ← zpow_natCast, ← zpow_natCast, mul_assoc, ← zpow_add₀ two_ne_zero]
    congr 2
    omega
  have exact : roundHalfEven ((d.significand <<< d.scale.toNat) <<< (-d.scale).toNat)
      ((1 <<< (-d.scale).toNat) <<< d.scale.toNat) = d.significand := by
    have parts : (d.significand <<< d.scale.toNat) <<< (-d.scale).toNat =
        d.significand * ((1 <<< (-d.scale).toNat) <<< d.scale.toNat) := by
      simp only [Nat.shiftLeft_eq]
      ring
    rw [parts]
    refine roundHalfEven_exact ?_ _
    simp only [Nat.shiftLeft_eq]
    positivity
  have inRange : ¬ (greatestScale < d.scale ∨
      (d.scale = greatestScale ∧ d.significand = 2 * exponentWeight)) := by
    have := scale_le_greatestScale finite
    have := d.significand_lt
    omega
  simp only [nearest, num, if_false, binaryExponent_eq_log num (power _).ne', value,
    log_significand h, scale_own h, exact, inRange]
  exact ofSignificand_own d

/-- A finite double without a significand is a zero. -/
theorem ofFields_zero {d : Double} (h : d.significand = 0) : ofFields d.isNegative 0 = d := by
  have field : d.exponentField = 0 := by
    by_contra nonzero
    simp [significand, nonzero, exponentWeight] at h
  have fraction : d.fractionField = 0 := by simpa [significand, field] using h
  simpa [field, fraction] using ofFields_fields d

/-- What is too large becomes an infinity. -/
theorem nearest_of_large (isNegative : Bool) {num den : Nat} (hd : den ≠ 0)
    (h : den <<< 1024 ≤ num) : nearest isNegative num den = infinity isNegative := by
  have hn : num ≠ 0 := by
    have : den ≤ den <<< 1024 := by
      rw [Nat.shiftLeft_eq]
      exact Nat.le_mul_of_pos_right _ (by positivity)
    omega
  have ratio : (0 : ℚ) < num / den := by positivity
  have exponent : 1024 ≤ Int.log 2 ((num : ℚ) / den) :=
    (Int.zpow_le_iff_le_log one_lt_two ratio).mp
      ((shiftLeft_toNat_le_iff num den (Nat.pos_of_ne_zero hd) 1024).mp h)
  have beyond : greatestScale < max leastScale (Int.log 2 ((num : ℚ) / den) - 52) := by
    unfold greatestScale
    omega
  simp only [nearest, hn, if_false, binaryExponent_eq_log hn hd, beyond, true_or, if_true]

/-- What is less than half the least double becomes a zero. -/
theorem nearest_of_small (isNegative : Bool) {num den : Nat} (hn : num ≠ 0)
    (h : num <<< 1075 < den) : nearest isNegative num den = nearest isNegative 0 1 := by
  have hd : den ≠ 0 := by omega
  have ratio : (0 : ℚ) < num / den := by positivity
  have exponent : Int.log 2 ((num : ℚ) / den) < -1075 := by
    refine (Int.lt_zpow_iff_log_lt one_lt_two ratio).mp (lt_of_not_ge fun reached => ?_)
    exact h.not_ge ((shiftLeft_toNat_le_iff num den (Nat.pos_of_ne_zero hd) (-1075)).mpr reached)
  have least : max leastScale (Int.log 2 ((num : ℚ) / den) - 52) = -1074 := by
    unfold leastScale
    omega
  have half : 2 * num <<< 1074 < den := by
    rwa [← Nat.shiftLeft_succ]
  have rounded : roundHalfEven (num <<< 1074) den = 0 := by
    have below : num <<< 1074 < den := by omega
    rw [roundHalfEven, Nat.mod_eq_of_lt below, Nat.div_eq_of_lt below, if_pos (Or.inl half)]
  simp only [nearest, hn, if_false, binaryExponent_eq_log hn hd, least]
  simp [rounded, greatestScale, ofSignificand, exponentWeight]

end GraphEngine.Double
