import Mathlib
import GraphEngine.Decimal.Shortest
import GraphEngine.Proofs.Double.Nearest

/-!
Decimals of one value are read as one double, and the shortest decimal of a finite double is read
as that double.

The exponents that `toDouble` settles first agree with the nearest double, so that only the value
of a decimal counts.
-/
namespace GraphEngine.Decimal

open Double (nearest)

theorem powerOfTen_eq (exponent : Nat) : powerOfTen exponent = 10 ^ exponent := rfl

theorem powerOfTen_ne_zero (exponent : Nat) : powerOfTen exponent ≠ 0 :=
  (Nat.pow_pos (by decide)).ne'

theorem powerOfTen_add (a b : Nat) : powerOfTen (a + b) = powerOfTen a * powerOfTen b :=
  Nat.pow_add 10 a b

theorem powerOfTen_le {a b : Nat} (h : a ≤ b) : powerOfTen a ≤ powerOfTen b :=
  Nat.pow_le_pow_right (by decide) h

theorem shiftLeft_le_powerOfTen {exponent : Nat} (h : 311 ≤ exponent) :
    1 <<< 1024 ≤ powerOfTen exponent :=
  le_trans (by decide +kernel) (powerOfTen_le h)

theorem shiftLeft_lt_powerOfTen (coefficient : Nat) {exponent : Nat}
    (h : coefficient.log2 + 401 ≤ exponent) : coefficient <<< 1075 < powerOfTen exponent := by
  have limit : 1 <<< 1076 ≤ powerOfTen 401 := by decide +kernel
  calc coefficient <<< 1075
      < (2 ^ (coefficient.log2 + 1)) <<< 1075 := by
        rw [Nat.shiftLeft_eq, Nat.shiftLeft_eq]
        exact Nat.mul_lt_mul_of_pos_right Nat.lt_log2_self (by positivity)
    _ = 2 ^ coefficient.log2 * 1 <<< 1076 := by
        simp only [Nat.shiftLeft_eq, one_mul, ← pow_add]
    _ ≤ powerOfTen coefficient.log2 * powerOfTen 401 :=
        Nat.mul_le_mul (Nat.pow_le_pow_left (by decide) _) limit
    _ = powerOfTen (coefficient.log2 + 401) := (powerOfTen_add _ _).symm
    _ ≤ powerOfTen exponent := powerOfTen_le h

theorem nearest_zero (isNegative : Bool) (den : Nat) :
    nearest isNegative 0 den = Double.ofFields isNegative 0 := by
  simp [nearest]

/-- The exponents that are settled first are no exceptions. -/
theorem toDouble_eq_nearest (isNegative : Bool) (d : Decimal) :
    d.toDouble isNegative = nearest isNegative (d.coefficient * powerOfTen d.exponent.toNat)
      (powerOfTen (-d.exponent).toNat) := by
  unfold toDouble
  by_cases zero : d.coefficient = 0
  · simp only [zero, if_true, Nat.zero_mul, nearest_zero]
  by_cases large : 310 < d.exponent
  · have one : powerOfTen (-d.exponent).toNat = 1 := by
      rw [Int.toNat_of_nonpos (by omega)]
      rfl
    have reached : 1 <<< 1024 ≤ d.coefficient * powerOfTen d.exponent.toNat :=
      (shiftLeft_le_powerOfTen (by omega)).trans
        (Nat.le_mul_of_pos_left _ (Nat.pos_of_ne_zero zero))
    rw [if_neg zero, if_pos large, one, Double.nearest_of_large isNegative one_ne_zero reached]
  by_cases small : d.exponent < -(d.coefficient.log2 + 400)
  · have one : powerOfTen d.exponent.toNat = 1 := by
      rw [Int.toNat_of_nonpos (by omega)]
      rfl
    have missed : d.coefficient <<< 1075 < powerOfTen (-d.exponent).toNat :=
      shiftLeft_lt_powerOfTen d.coefficient (by omega)
    rw [if_neg zero, if_neg large, if_pos small, one, Nat.mul_one,
      Double.nearest_of_small isNegative zero missed]
  · rw [if_neg zero, if_neg large, if_neg small]

/-- Zeros at the end of the coefficient can go to the exponent. -/
theorem toDouble_mul_powerOfTen (isNegative : Bool) (coefficient count : Nat) (exponent : Int) :
    toDouble isNegative ⟨coefficient * powerOfTen count, exponent⟩ =
      toDouble isNegative ⟨coefficient, exponent + count⟩ := by
  rw [toDouble_eq_nearest, toDouble_eq_nearest]
  refine Double.nearest_congr isNegative (powerOfTen_ne_zero _) (powerOfTen_ne_zero _) ?_
  simp only [powerOfTen_eq, mul_assoc, ← pow_add]
  congr 2
  omega

theorem toDouble_of_ofCount? {tie : Tie} {d : Double} {num den count : Nat} {decimal : Decimal}
    (h : ofCount? tie d num den count = some decimal) :
    decimal.toDouble d.isNegative = d := by
  simp only [ofCount?] at h
  split at h <;> simp only [Option.some.injEq, reduceCtorEq] at h <;> subst h
  · next lower upper =>
      simp only [decide_eq_true_eq] at lower upper
      unfold nearer
      cases tie <;> split_ifs <;> assumption
  · next lower _ => exact of_decide_eq_true lower
  · next _ upper => exact of_decide_eq_true upper

theorem toDouble_exact {d : Double} (finite : d.isFinite = true) (h : d.significand ≠ 0) :
    (exact d).toDouble d.isNegative = d := by
  have shifted : ∀ count : Nat, 1 <<< count ≠ 0 := by
    intro count
    rw [Nat.shiftLeft_eq]
    positivity
  rw [toDouble_eq_nearest]
  refine Eq.trans ?_ (Double.nearest_own finite h)
  refine Double.nearest_congr d.isNegative (powerOfTen_ne_zero _) (shifted _) ?_
  unfold exact
  by_cases whole : 0 ≤ d.scale
  · have none : (-d.scale).toNat = 0 := by omega
    simp [whole, none, powerOfTen_eq]
  · have none : d.scale.toNat = 0 := by omega
    have fives : Nat.pow 5 (-d.scale).toNat * 2 ^ (-d.scale).toNat = 10 ^ (-d.scale).toNat :=
      (mul_pow 5 2 _).symm
    simp only [whole, if_false, none, powerOfTen_eq, Nat.shiftLeft_eq, pow_zero, mul_one, one_mul]
    rw [mul_assoc, fives]

theorem toDouble_shortest (tie : Tie) {d : Double} (finite : d.isFinite = true) :
    (shortest tie d).toDouble d.isNegative = d := by
  unfold shortest
  by_cases h : d.significand = 0
  · rw [if_pos h, toDouble_eq_nearest, Nat.zero_mul, nearest_zero]
    exact Double.ofFields_zero h
  · rw [if_neg h]
    simp only
    cases found : (List.range 17).findSome? fun k =>
        ofCount? tie d (d.significand <<< d.scale.toNat) (1 <<< (-d.scale).toNat) (k + 1) with
    | none => exact toDouble_exact finite h
    | some decimal =>
        obtain ⟨k, _, hk⟩ := List.exists_of_findSome?_eq_some found
        exact toDouble_of_ofCount? hk

/-- The number that digits are read as. -/
def valueOf (digits : List Char) : Nat := Nat.ofDigitChars 10 digits 0

theorem valueOf_append_zeros (digits : List Char) (count : Nat) :
    valueOf (digits ++ List.replicate count '0') = valueOf digits * powerOfTen count := by
  rw [valueOf, Nat.ofDigitChars_append, Nat.ofDigitChars_replicate_zero, Nat.mul_comm]
  rfl

theorem toDigits_head {n : Nat} (h : n ≠ 0) :
    ∃ first rest, Nat.toDigits 10 n = first :: rest ∧ first ≠ '0' := by
  induction n using Nat.strongRecOn with
  | ind n ih =>
      by_cases small : n < 10
      · refine ⟨n.digitChar, [], Nat.toDigits_of_lt_base small, ?_⟩
        have chars : ∀ digit < 10, digit ≠ 0 → Nat.digitChar digit ≠ '0' := by decide
        exact chars n small h
      · obtain ⟨first, rest, digits, nonzero⟩ := ih (n / 10) (by omega) (by omega)
        refine ⟨first, rest ++ [Nat.digitChar (n % 10)], ?_, nonzero⟩
        rw [Nat.toDigits_of_base_le (by decide) (by omega), digits, List.cons_append]

theorem stripped_append_zeros (digits : List Char) :
    ∃ count, digits =
      (digits.reverse.dropWhile (· = '0')).reverse ++ List.replicate count '0' := by
  refine ⟨(digits.reverse.takeWhile (· = '0')).length, ?_⟩
  have zeros : digits.reverse.takeWhile (· = '0') =
      List.replicate (digits.reverse.takeWhile (· = '0')).length '0' := by
    refine List.eq_replicate_iff.mpr ⟨rfl, fun c hc => ?_⟩
    simpa using List.mem_takeWhile_imp hc
  rw [← List.reverse_replicate, ← zeros, ← List.reverse_append, List.takeWhile_append_dropWhile,
    List.reverse_reverse]

/-- What was left out of the digits are zeros behind them. -/
theorem digits_append_zeros {d : Decimal} (h : d.coefficient ≠ 0) :
    ∃ count, Nat.toDigits 10 d.coefficient = d.digits ++ List.replicate count '0' := by
  obtain ⟨count, parts⟩ := stripped_append_zeros (Nat.toDigits 10 d.coefficient)
  obtain ⟨first, rest, digits, nonzero⟩ := toDigits_head h
  refine ⟨count, ?_⟩
  unfold Decimal.digits
  cases shown : ((Nat.toDigits 10 d.coefficient).reverse.dropWhile (· = '0')).reverse with
  | nil =>
      rw [shown, List.nil_append, digits] at parts
      have : first ∈ List.replicate count '0' := parts ▸ List.mem_cons_self
      exact absurd (List.eq_of_mem_replicate this) nonzero
  | cons c chars => rwa [shown] at parts

theorem digits_of_zero {d : Decimal} (h : d.coefficient = 0) : d.digits = ['0'] := by
  unfold digits
  rw [h]
  rfl

theorem digits_ne_nil (d : Decimal) : d.digits ≠ [] := by
  unfold digits
  split <;> simp_all

/-- Only a zero begins with one. -/
theorem digits_head {d : Decimal} (h : d.coefficient ≠ 0) :
    ∃ first rest, d.digits = first :: rest ∧ first ≠ '0' := by
  obtain ⟨count, parts⟩ := digits_append_zeros h
  obtain ⟨first, rest, digits, nonzero⟩ := toDigits_head h
  cases shown : d.digits with
  | nil => exact absurd shown d.digits_ne_nil
  | cons c chars =>
      rw [shown, digits, List.cons_append, List.cons.injEq] at parts
      exact ⟨c, chars, rfl, parts.1 ▸ nonzero⟩

theorem isDigit_of_mem_digits {d : Decimal} {c : Char} (h : c ∈ d.digits) : c.isDigit = true := by
  by_cases zero : d.coefficient = 0
  · rw [digits_of_zero zero, List.mem_singleton] at h
    rw [h]
    rfl
  · obtain ⟨count, parts⟩ := digits_append_zeros zero
    exact Nat.isDigit_of_mem_toDigits (by decide) (by decide)
      (parts ▸ List.mem_append_left _ h)

/-- The digits and the place of the point are all that counts. -/
theorem toDouble_digits (isNegative : Bool) (d : Decimal) :
    toDouble isNegative ⟨valueOf d.digits, d.point - d.digits.length⟩ =
      d.toDouble isNegative := by
  by_cases zero : d.coefficient = 0
  · have value : valueOf d.digits = 0 := by
      rw [digits_of_zero zero]
      rfl
    simp only [toDouble, value, zero, if_true]
  · obtain ⟨count, parts⟩ := digits_append_zeros zero
    have value : d.coefficient = valueOf d.digits * powerOfTen count := by
      rw [← valueOf_append_zeros, ← parts, valueOf, Nat.ofDigitChars_ten_toDigits]
    have length : (Nat.toDigits 10 d.coefficient).length = d.digits.length + count := by
      rw [parts, List.length_append, List.length_replicate]
    have exponent : d.point - d.digits.length = d.exponent + count := by
      rw [point, if_neg zero, length]
      omega
    rw [exponent, ← toDouble_mul_powerOfTen, ← value]

end GraphEngine.Decimal
