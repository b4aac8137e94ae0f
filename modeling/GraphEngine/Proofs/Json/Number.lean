import GraphEngine.Json.Printer
import GraphEngine.Proofs.Decimal.Scaled
import GraphEngine.Proofs.Json.Numeral

/-!
The text of a number is its sign and a numeral, and this is scanned as one literal.

A whole number is its literal again. A double is read by way of a power of ten and need not be; it
is if its numeral has few digits and a small exponent.
-/
namespace GraphEngine.Json

open Decimal (valueOf powerOfTen)
open Token.NumberScan (isWhole_digits isWhole_toDigits)

/-- A decimal written without an exponent but with every digit before the point ends in `.0`. -/
def decimalNumeral (d : Decimal) : Numeral :=
  if doubleLayout.isWrittenOut d.point then
    if d.point ≤ 0 then ⟨['0'], Decimal.zeros (-d.point) ++ d.digits, none⟩
    else if d.point < d.digits.length then
      ⟨d.digits.take d.point.toNat, d.digits.drop d.point.toNat, none⟩
    else ⟨d.digits ++ Decimal.zeros (d.point - d.digits.length), ['0'], none⟩
  else ⟨d.digits.take 1, d.digits.drop 1, some (d.point - 1)⟩

theorem isNumber_decimalNumeral (d : Decimal) : (decimalNumeral d).IsNumber := by
  have nonempty := List.length_pos_iff.mpr d.digits_ne_nil
  have digit : ∀ c ∈ d.digits, c.isDigit = true := fun c hc => Decimal.isDigit_of_mem_digits hc
  unfold decimalNumeral
  split_ifs with writtenOut before inside
  · refine ⟨⟨by simp, Or.inl rfl⟩, fun c hc => ?_⟩
    obtain zero | digits := List.mem_append.mp hc
    · rw [List.eq_of_mem_replicate zero]
      rfl
    · exact digit c digits
  · exact ⟨(isWhole_digits d).take (by omega) (by omega),
      fun c hc => digit c (List.mem_of_mem_drop hc)⟩
  · refine ⟨(isWhole_digits d).append_zeros fun alone => ?_, by simp⟩
    have zero : d.coefficient = 0 := by
      by_contra nonzero
      obtain ⟨first, rest, digits, hf⟩ := Decimal.digits_head nonzero
      rw [alone, List.cons.injEq] at digits
      exact hf digits.1.symm
    simp [Decimal.point, zero, alone]
  · refine ⟨?_, fun c hc => digit c (List.mem_of_mem_drop hc)⟩
    obtain few | alone : 1 < d.digits.length ∨ d.digits.length = 1 := by omega
    · exact (isWhole_digits d).take one_pos few
    · rw [List.take_of_length_le alone.le]
      exact isWhole_digits d

/-- The parts are the digits again, with zeros behind them where the exponent leaves room. -/
theorem exists_zeros_decimalNumeral (d : Decimal) :
    ∃ count : Nat, (decimalNumeral d).decimal =
      ⟨valueOf d.digits * powerOfTen count, d.point - d.digits.length - count⟩ := by
  have nonempty := List.length_pos_iff.mpr d.digits_ne_nil
  have zeros : ∀ count : Int, (Decimal.zeros count).length = count.toNat := fun _ =>
    List.length_replicate
  unfold decimalNumeral Numeral.decimal
  split_ifs with writtenOut before inside
  · refine ⟨0, Decimal.mk.injEq .. ▸ ⟨?_, ?_⟩⟩
    · simp [valueOf, Decimal.zeros, Nat.ofDigitChars_append, Nat.ofDigitChars_cons,
        Decimal.powerOfTen_eq]
    · simp only [Option.getD_none, List.length_append, zeros]
      omega
  · refine ⟨0, Decimal.mk.injEq .. ▸ ⟨?_, ?_⟩⟩
    · simp [Decimal.powerOfTen_eq]
    · simp only [Option.getD_none, List.length_drop]
      omega
  · refine ⟨(d.point - d.digits.length).toNat + 1, Decimal.mk.injEq .. ▸ ⟨?_, ?_⟩⟩
    · rw [List.append_assoc, Decimal.zeros, ← List.replicate_succ', Decimal.valueOf_append_zeros]
    · simp only [Option.getD_none, List.length_singleton]
      omega
  · refine ⟨0, Decimal.mk.injEq .. ▸ ⟨?_, ?_⟩⟩
    · rw [List.take_append_drop, Decimal.powerOfTen_eq, pow_zero, mul_one]
    · simp only [Option.getD_some, List.length_drop]
      omega

/-- It has a point or an exponent. -/
theorem not_whole_decimalNumeral (d : Decimal) :
    ¬ ((decimalNumeral d).fraction = [] ∧ (decimalNumeral d).mark = none) := by
  unfold decimalNumeral
  split_ifs with writtenOut before inside
  · simp [d.digits_ne_nil]
  · simp only [List.drop_eq_nil_iff, and_true]
    omega
  · simp
  · simp

theorem toDouble_decimalNumeral (isNegative : Bool) (d : Decimal) :
    (decimalNumeral d).decimal.toDouble isNegative = d.toDouble isNegative := by
  obtain ⟨count, decimal⟩ := exists_zeros_decimalNumeral d
  rw [decimal, Decimal.toDouble_mul_powerOfTen, Int.sub_add_cancel, Decimal.toDouble_digits]

theorem chars_decimalNumeral (d : Decimal) :
    (decimalNumeral d).chars =
      if doubleLayout.isWrittenOut d.point then doubleLayout.writtenOut d.digits d.point
      else Decimal.Layout.withExponent d.digits d.point := by
  unfold decimalNumeral
  split_ifs with writtenOut before inside
  · have fraction : Decimal.zeros (-d.point) ++ d.digits ≠ [] := by simp [d.digits_ne_nil]
    simp [Numeral.chars, Numeral.pointChars_of_ne_nil fraction, Numeral.markChars,
      Decimal.Layout.writtenOut, before]
  · have fraction : d.digits.drop d.point.toNat ≠ [] := by
      rw [ne_eq, List.drop_eq_nil_iff]
      omega
    simp [Numeral.chars, Numeral.pointChars_of_ne_nil fraction, Numeral.markChars,
      Decimal.Layout.writtenOut, before, inside]
  · simp [Numeral.chars, Numeral.pointChars, Numeral.markChars, Decimal.Layout.writtenOut, before,
      inside, doubleLayout]
  · obtain ⟨first, rest, shown⟩ := List.exists_cons_of_ne_nil d.digits_ne_nil
    rw [shown]
    cases rest <;> rfl

theorem toList_toString_int (value : Int) :
    (toString value).toList =
      if value < 0 then '-' :: Nat.toDigits 10 value.natAbs else Nat.toDigits 10 value.natAbs := by
  cases value with
  | ofNat n =>
      have positive : ¬ Int.ofNat n < 0 := Int.not_lt.mpr (Int.natCast_nonneg n)
      rw [if_neg positive]
      exact Nat.toList_repr
  | negSucc n =>
      rw [if_pos (Int.negSucc_lt_zero n)]
      exact (String.toList_append ..).trans (congrArg ('-' :: ·) Nat.toList_repr)

namespace Number

def isNegative : Number → Bool
  | .integer value _ => value < 0
  | .real value _ => value.isNegative

def numeral : Number → Numeral
  | .integer value _ => ⟨Nat.toDigits 10 value.natAbs, [], none⟩
  | .real value _ => decimalNumeral (Decimal.shortest .even value)

/-- What the text of the number is scanned as. -/
def literal (number : Number) : Literal := number.numeral.literal number.isNegative

theorem isNumber_numeral (number : Number) : number.numeral.IsNumber := by
  cases number with
  | integer value _ => exact ⟨isWhole_toDigits value.natAbs, by simp [numeral]⟩
  | real value _ => exact isNumber_decimalNumeral _

theorem toList_text (number : Number) :
    number.text.toList =
      if number.isNegative then '-' :: number.numeral.chars else number.numeral.chars := by
  cases number with
  | integer value _ =>
      simp only [text, isNegative, decide_eq_true_eq, toList_toString_int, numeral, Numeral.chars,
        Numeral.pointChars, Numeral.markChars, List.append_nil]
  | real value _ =>
      simp only [text, Decimal.Layout.text, String.toList_ofList, numeral, chars_decimalNumeral]
      rfl

theorem toNumber?_literal_integer (value : Int) (inRange : IsWord value) :
    (integer value inRange).literal.toNumber? = some (integer value inRange) := by
  have digits : valueOf (Nat.toDigits 10 value.natAbs) = value.natAbs :=
    Nat.ofDigitChars_ten_toDigits
  have literal : (integer value inRange).literal = ⟨value < 0, ⟨value.natAbs, 0⟩, true⟩ := by
    rw [literal, numeral, Numeral.literal_of_fits]
    · simp [Numeral.decimal, digits, isNegative]
    · simp only [Numeral.decimal, List.append_nil, digits]
      omega
  have signed : (if value < 0 then -(value.natAbs : Int) else value.natAbs) = value := by
    split_ifs <;> omega
  have kept : ¬ (value < 0 ∧ (value.natAbs : Int) = 0) := by omega
  rw [literal]
  simp only [Literal.toNumber?, decide_eq_true_eq, signed, kept, not_false_eq_true]
  exact dif_pos ⟨trivial, trivial, inRange⟩

/-- A double of few digits is read back: neither its digits nor its power of ten are rounded. -/
theorem toNumber?_literal_short {value : Double} (finite : value.isFinite = true)
    (short : (real value finite).numeral.decimal.IsShort) :
    (real value finite).literal.toNumber? = some (real value finite) := by
  have fits : (real value finite).numeral.decimal.coefficient < 0x10000000000000000 :=
    short.coefficient.trans (by decide)
  have readsBack : (real value finite).numeral.decimal.scaledDouble value.isNegative = value := by
    rw [Decimal.scaledDouble_eq_toDouble _ short, numeral, toDouble_decimalNumeral,
      Decimal.toDouble_shortest _ finite]
  have notWhole : ¬ ((real value finite).numeral.fraction = [] ∧
      (real value finite).numeral.mark = none) := not_whole_decimalNumeral _
  rw [literal, Numeral.literal_of_fits _ fits]
  simp [Literal.toNumber?, Literal.toReal?, notWhole, isNegative, readsBack, finite]

end Number
end GraphEngine.Json
