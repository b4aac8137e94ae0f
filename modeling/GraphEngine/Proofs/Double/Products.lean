import GraphEngine.Proofs.Double.Nearest

/-!
Products and quotients of doubles whose values are known, rounded once.

A whole number of 53 bits is a double, so its value is known after it has been rounded.
-/
namespace GraphEngine.Double

/-- The value of the double is the fraction, with the given sign. -/
structure HasValue (d : Double) (isNegative : Bool) (num den : Nat) : Prop where
  sign : d.isNegative = isNegative
  size : d.numerator * den = num * d.denominator

theorem denominator_ne_zero (d : Double) : d.denominator ≠ 0 := by
  rw [denominator, Nat.shiftLeft_eq]
  positivity

theorem HasValue.congr {d : Double} {isNegative : Bool} {num den num' den' : Nat}
    (h : d.HasValue isNegative num den) (hd : den ≠ 0) (same : num * den' = num' * den) :
    d.HasValue isNegative num' den' where
  sign := h.sign
  size := by
    refine Nat.eq_of_mul_eq_mul_right (Nat.pos_of_ne_zero hd) ?_
    calc d.numerator * den' * den
        = d.numerator * den * den' := Nat.mul_right_comm ..
      _ = num * den' * d.denominator := by rw [h.size, Nat.mul_right_comm]
      _ = num' * d.denominator * den := by rw [same, Nat.mul_right_comm]

section Values

variable {x y : Double} {isNegative isNegative' : Bool} {num den num' den' : Nat}

theorem mul_of_hasValue (hx : x.HasValue isNegative num den) (hy : y.HasValue isNegative' num' den')
    (hd : den ≠ 0) (hd' : den' ≠ 0) :
    x.mul y = nearest (isNegative != isNegative') (num * num') (den * den') := by
  rw [mul, hx.sign, hy.sign]
  refine nearest_congr _ (Nat.mul_ne_zero x.denominator_ne_zero y.denominator_ne_zero)
    (Nat.mul_ne_zero hd hd') ?_
  calc x.numerator * y.numerator * (den * den')
      = x.numerator * den * (y.numerator * den') := by ring
    _ = num * num' * (x.denominator * y.denominator) := by rw [hx.size, hy.size]; ring

theorem div_of_hasValue (hx : x.HasValue isNegative num den) (hy : y.HasValue isNegative' num' den')
    (hd : den ≠ 0) (hn' : num' ≠ 0) :
    x.div y = nearest (isNegative != isNegative') (num * den') (den * num') := by
  have nonzero : y.numerator ≠ 0 := by
    intro zero
    have size := hy.size
    rw [zero, Nat.zero_mul] at size
    exact Nat.mul_ne_zero hn' y.denominator_ne_zero size.symm
  rw [div, hx.sign, hy.sign]
  refine nearest_congr _ (Nat.mul_ne_zero x.denominator_ne_zero nonzero)
    (Nat.mul_ne_zero hd hn') ?_
  calc x.numerator * y.denominator * (den * num')
      = x.numerator * den * (num' * y.denominator) := by ring
    _ = num * den' * (x.denominator * y.numerator) := by rw [hx.size, ← hy.size]; ring

end Values

section Fields

variable (isNegative : Bool) {fields : Nat}

theorem toNat_bits_ofFields (h : fields < signWeight) :
    (ofFields isNegative fields).bits.toNat = (if isNegative then signWeight else 0) + fields := by
  rw [ofFields, UInt64.toNat_ofNat']
  refine Nat.mod_eq_of_lt ?_
  simp only [signWeight] at h ⊢
  split_ifs <;> omega

theorem isNegative_ofFields (h : fields < signWeight) :
    (ofFields isNegative fields).isNegative = isNegative := by
  cases isNegative <;>
    simp only [Double.isNegative, toNat_bits_ofFields _ h, Bool.false_eq_true, if_false, if_true,
      decide_eq_true_eq, decide_eq_false_iff_not] <;>
    omega

theorem exponentField_ofFields (h : fields < signWeight) :
    (ofFields isNegative fields).exponentField = fields / exponentWeight := by
  rw [exponentField, toNat_bits_ofFields _ h]
  simp only [signWeight, exponentWeight] at h ⊢
  split_ifs <;> omega

theorem fractionField_ofFields (h : fields < signWeight) :
    (ofFields isNegative fields).fractionField = fields % exponentWeight := by
  rw [fractionField, toNat_bits_ofFields _ h]
  simp only [signWeight, exponentWeight] at h ⊢
  split_ifs <;> omega

/-- Where the highest bit of the significand is set, it is found again, and so is its scale. -/
theorem hasValue_ofFields {count significand : Nat} (large : exponentWeight ≤ significand)
    (small : significand < 2 * exponentWeight) (few : count ≤ 2045) :
    (ofFields isNegative (count * exponentWeight + significand)).HasValue isNegative
      (significand <<< ((count : Int) - 1074).toNat) (1 <<< (-((count : Int) - 1074)).toNat) := by
  obtain ⟨fields, sum⟩ : ∃ fields, fields = count * exponentWeight + significand := ⟨_, rfl⟩
  have inRange : fields < signWeight := by
    simp only [exponentWeight, signWeight] at sum small ⊢
    omega
  have exponent : (ofFields isNegative fields).exponentField = count + 1 := by
    rw [exponentField_ofFields _ inRange]
    simp only [exponentWeight] at sum large small ⊢
    omega
  have fraction : (ofFields isNegative fields).fractionField = significand - exponentWeight := by
    rw [fractionField_ofFields _ inRange]
    simp only [exponentWeight] at sum large small ⊢
    omega
  have whole : (ofFields isNegative fields).significand = significand := by
    rw [Double.significand, exponent, fraction, if_neg (Nat.succ_ne_zero count)]
    omega
  have atScale : (ofFields isNegative fields).scale = count - 1074 := by
    rw [Double.scale, exponent]
    omega
  rw [← sum]
  exact ⟨isNegative_ofFields _ inRange, by rw [numerator, denominator, whole, atScale]⟩

end Fields

theorem hasValue_ofSignificand (isNegative : Bool) {significand : Nat} {scale : Int}
    (large : exponentWeight ≤ significand) (small : significand < 2 * exponentWeight)
    (low : leastScale ≤ scale) (high : scale ≤ greatestScale) :
    (ofSignificand isNegative significand scale).HasValue isNegative
      (significand <<< scale.toNat) (1 <<< (-scale).toNat) := by
  obtain ⟨count, rfl⟩ : ∃ count : Nat, scale = count - 1074 :=
    ⟨(scale + 1074).toNat, by unfold leastScale at low; omega⟩
  have few : count ≤ 2045 := by unfold greatestScale at high; omega
  have fields : ofSignificand isNegative significand (count - 1074) =
      ofFields isNegative (count * exponentWeight + significand) := by
    rw [ofSignificand, if_neg (by omega), if_neg (by omega)]
    simp
  rw [fields]
  exact hasValue_ofFields isNegative large small few

theorem shiftLeft_lt_exponentWeight {n : Nat} (width : n.log2 ≤ 52) :
    n <<< (52 - n.log2) < 2 * exponentWeight := by
  calc n <<< (52 - n.log2)
      = n * 2 ^ (52 - n.log2) := Nat.shiftLeft_eq _ _
    _ < 2 ^ (n.log2 + 1) * 2 ^ (52 - n.log2) :=
        Nat.mul_lt_mul_of_pos_right Nat.lt_log2_self (by positivity)
    _ = 2 * exponentWeight := by
        rw [← pow_add, Nat.add_right_comm, Nat.add_sub_of_le width]
        rfl

section Whole

variable {n : Nat} (nonzero : n ≠ 0) (width : n.log2 ≤ 52)

include nonzero width

theorem exponentWeight_le_shiftLeft : exponentWeight ≤ n <<< (52 - n.log2) := by
  calc exponentWeight
      = 2 ^ n.log2 * 2 ^ (52 - n.log2) := by
        rw [← pow_add, Nat.add_sub_of_le width]
        rfl
    _ ≤ n * 2 ^ (52 - n.log2) := Nat.mul_le_mul_right _ (Nat.log2_self_le nonzero)
    _ = n <<< (52 - n.log2) := (Nat.shiftLeft_eq _ _).symm

/-- Its highest bit is moved to the place that a double has for it. -/
theorem nearest_eq_ofSignificand (isNegative : Bool) :
    nearest isNegative n 1 =
      ofSignificand isNegative (n <<< (52 - n.log2)) ((n.log2 : Int) - 52) := by
  have log : Int.log 2 ((n : ℚ) / (1 : Nat)) = n.log2 := by simpa using log_significand nonzero 0
  have scale : max leastScale ((n.log2 : Int) - 52) = n.log2 - 52 := by
    unfold leastScale
    omega
  have up : (-((n.log2 : Int) - 52)).toNat = 52 - n.log2 := by omega
  have down : ((n.log2 : Int) - 52).toNat = 0 := by omega
  have rounded : roundHalfEven (n <<< (52 - n.log2)) (1 <<< 0) = n <<< (52 - n.log2) := by
    simpa using roundHalfEven_exact one_pos (n <<< (52 - n.log2))
  have inRange : ¬ (greatestScale < (n.log2 : Int) - 52 ∨
      ((n.log2 : Int) - 52 = greatestScale ∧ n <<< (52 - n.log2) = 2 * exponentWeight)) := by
    unfold greatestScale
    omega
  simp only [nearest, nonzero, if_false, binaryExponent_eq_log nonzero one_ne_zero, log, scale, up,
    down, rounded, inRange]

theorem hasValue_nearest_of_ne_zero (isNegative : Bool) :
    (nearest isNegative n 1).HasValue isNegative n 1 := by
  have value := hasValue_ofSignificand isNegative (exponentWeight_le_shiftLeft nonzero width)
    (shiftLeft_lt_exponentWeight width)
    (show leastScale ≤ (n.log2 : Int) - 52 by unfold leastScale; omega)
    (show (n.log2 : Int) - 52 ≤ greatestScale by unfold greatestScale; omega)
  have up : (-((n.log2 : Int) - 52)).toNat = 52 - n.log2 := by omega
  have down : ((n.log2 : Int) - 52).toNat = 0 := by omega
  rw [← nearest_eq_ofSignificand nonzero width, up, down] at value
  refine value.congr ?_ ?_
  · rw [Nat.shiftLeft_eq]
    positivity
  · simp [Nat.shiftLeft_eq]

end Whole

theorem hasValue_nearest_zero (isNegative : Bool) :
    (nearest isNegative 0 1).HasValue isNegative 0 1 := by
  have noFields : (0 : Nat) < signWeight := by decide
  have nothing : (ofFields isNegative 0).significand = 0 := by
    rw [significand, exponentField_ofFields _ noFields, fractionField_ofFields _ noFields]
    rfl
  exact ⟨isNegative_ofFields _ noFields, by simp [nearest, numerator, nothing]⟩

/-- A whole number of 53 bits is not changed. -/
theorem hasValue_nearest (isNegative : Bool) {n : Nat} (h : n < 2 * exponentWeight) :
    (nearest isNegative n 1).HasValue isNegative n 1 := by
  by_cases zero : n = 0
  · exact zero ▸ hasValue_nearest_zero isNegative
  · have width : n.log2 < 53 := (Nat.log2_lt zero).mpr h
    exact hasValue_nearest_of_ne_zero zero (by omega) isNegative

end GraphEngine.Double
