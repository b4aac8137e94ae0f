import Mathlib
import GraphEngine.Json.Token
import GraphEngine.Proofs.Decimal.ReadBack

/-!
What a number is scanned as that is written without its sign.

A numeral is such a number cut into its parts. Folds over these parts say which of its digits are
gathered, so that every numeral is scanned as a literal; where all of its digits fit, the literal is
the number that they stand for.
-/
namespace GraphEngine.Json

open Decimal (valueOf)

namespace Token.Digits

theorem le_ofDigitChars (chars : List Char) (start : Nat) :
    start ≤ Nat.ofDigitChars 10 chars start := by
  rw [Nat.ofDigitChars_eq_ofDigitChars_zero]
  exact (Nat.le_mul_of_pos_left start (by positivity)).trans (Nat.le_add_right _ _)

/-- What fits in the end has fitted all along. -/
theorem fits_of_lt {digits : Digits} (opened : digits.isFull = false) {c : Char}
    {chars : List Char}
    (fits : Nat.ofDigitChars 10 (c :: chars) digits.coefficient < 0x10000000000000000) :
    digits.Fits c :=
  ⟨opened, (le_ofDigitChars chars _).trans_lt fits⟩

theorem foldl_pushWhole {start : Digits} (opened : start.isFull = false) {chars : List Char}
    (fits : Nat.ofDigitChars 10 chars start.coefficient < 0x10000000000000000) :
    chars.foldl pushWhole start =
      { start with coefficient := Nat.ofDigitChars 10 chars start.coefficient } := by
  induction chars generalizing start with
  | nil => rfl
  | cons c chars ih =>
      rw [List.foldl_cons, pushWhole, if_pos (fits_of_lt opened fits)]
      exact ih opened fits

/-- Digits behind the point lower the exponent. -/
theorem foldl_pushFraction {start : Digits} (opened : start.isFull = false) {chars : List Char}
    (fits : Nat.ofDigitChars 10 chars start.coefficient < 0x10000000000000000) :
    chars.foldl pushFraction start =
      { start with
        coefficient := Nat.ofDigitChars 10 chars start.coefficient
        exponent := start.exponent - chars.length } := by
  induction chars generalizing start with
  | nil => simp
  | cons c chars ih =>
      have count : start.exponent - ((c :: chars).length : Int) =
          start.exponent - 1 - chars.length := by
        rw [List.length_cons]
        omega
      rw [List.foldl_cons, pushFraction, if_pos (fits_of_lt opened fits), count]
      exact ih opened fits

end Token.Digits

namespace Token.NumberScan

/-- The longer number, if all the characters belong to it. -/
def extendAll? : NumberScan → List Char → Option NumberScan
  | scan, [] => some scan
  | scan, c :: rest =>
      match scan.extend? c with
      | some longer => longer.extendAll? rest
      | none => none

theorem extendAll?_cons {scan longer : NumberScan} {c : Char} (h : scan.extend? c = some longer)
    (rest : List Char) : scan.extendAll? (c :: rest) = longer.extendAll? rest := by
  simp only [extendAll?, h]

theorem extendAll?_append {scan longer : NumberScan} {front : List Char}
    (h : scan.extendAll? front = some longer) (back : List Char) :
    scan.extendAll? (front ++ back) = longer.extendAll? back := by
  induction front generalizing scan with
  | nil =>
      cases h
      rfl
  | cons c front ih =>
      simp only [List.cons_append, extendAll?] at h ⊢
      split at h
      · exact ih h
      · cases h

theorem not_digit {c : Char} (h : c.isDigit = true) :
    c ≠ '.' ∧ c ≠ 'e' ∧ c ≠ 'E' ∧ c ≠ '+' ∧ c ≠ '-' := by
  refine ⟨?_, ?_, ?_, ?_, ?_⟩ <;> rintro rfl <;> exact absurd h (by decide)

theorem extendAll?_whole {scan : NumberScan} (part : scan.part = .whole) {chars : List Char}
    (digits : ∀ c ∈ chars, c.isDigit = true) :
    scan.extendAll? chars =
      some { scan with digits := chars.foldl Digits.pushWhole scan.digits } := by
  induction chars generalizing scan with
  | nil => rfl
  | cons c chars ih =>
      have hc := digits c List.mem_cons_self
      obtain ⟨point, mark, mark', _, _⟩ := not_digit hc
      have step : scan.extend? c = some { scan with digits := scan.digits.pushWhole c } := by
        simp [extend?, part, point, mark, mark', hc]
      rw [extendAll?_cons step]
      exact ih part fun d hd => digits d (List.mem_cons_of_mem _ hd)

theorem extendAll?_fraction {scan : NumberScan} (part : scan.part = .fraction) {chars : List Char}
    (digits : ∀ c ∈ chars, c.isDigit = true) :
    scan.extendAll? chars =
      some { scan with digits := chars.foldl Digits.pushFraction scan.digits } := by
  induction chars generalizing scan with
  | nil => rfl
  | cons c chars ih =>
      have hc := digits c List.mem_cons_self
      obtain ⟨_, mark, mark', _, _⟩ := not_digit hc
      have step : scan.extend? c = some { scan with digits := scan.digits.pushFraction c } := by
        simp [extend?, part, mark, mark', hc]
      rw [extendAll?_cons step]
      exact ih part fun d hd => digits d (List.mem_cons_of_mem _ hd)

theorem extendAll?_power {scan : NumberScan} (part : scan.part = .power) {chars : List Char}
    (digits : ∀ c ∈ chars, c.isDigit = true) :
    scan.extendAll? chars =
      some { scan with power := Nat.ofDigitChars 10 chars scan.power } := by
  induction chars generalizing scan with
  | nil => rfl
  | cons c chars ih =>
      have hc := digits c List.mem_cons_self
      have step : scan.extend? c = some { scan with power := 10 * scan.power + digit c } := by
        simp [extend?, part, hc]
      rw [extendAll?_cons step]
      exact ih part fun d hd => digits d (List.mem_cons_of_mem _ hd)

/-- At least one digit follows the point. -/
theorem extendAll?_point {scan : NumberScan} (part : scan.part = .zero ∨ scan.part = .whole)
    {chars : List Char} (nonempty : chars ≠ []) (digits : ∀ c ∈ chars, c.isDigit = true) :
    scan.extendAll? ('.' :: chars) =
      some { scan with
        part := .fraction
        digits := chars.foldl Digits.pushFraction scan.digits.reopen } := by
  obtain ⟨c, rest, rfl⟩ := List.exists_cons_of_ne_nil nonempty
  have hc := digits c List.mem_cons_self
  have point : scan.extend? '.' =
      some { scan with part := .point, digits := scan.digits.reopen } := by
    rcases part with part | part <;> simp [extend?, part]
  have first : extend? { scan with part := .point, digits := scan.digits.reopen } c =
      some { scan with part := .fraction, digits := scan.digits.reopen.pushFraction c } := by
    simp [extend?, hc]
  rw [extendAll?_cons point, extendAll?_cons first,
    extendAll?_fraction rfl fun d hd => digits d (List.mem_cons_of_mem _ hd)]
  rfl

/-- The exponent has a sign, also where it is not negative. -/
theorem extendAll?_mark {scan : NumberScan}
    (part : scan.part = .zero ∨ scan.part = .whole ∨ scan.part = .fraction)
    (positive : scan.powerIsNegative = false) (isNegative : Bool) {chars : List Char}
    (nonempty : chars ≠ []) (digits : ∀ c ∈ chars, c.isDigit = true) :
    scan.extendAll? ('e' :: (if isNegative then '-' else '+') :: chars) =
      some { scan with
        part := .power
        powerIsNegative := isNegative
        power := Nat.ofDigitChars 10 chars scan.power } := by
  obtain ⟨c, rest, rfl⟩ := List.exists_cons_of_ne_nil nonempty
  have hc := digits c List.mem_cons_self
  have mark : scan.extend? 'e' = some { scan with part := .mark } := by
    rcases part with part | part | part <;> simp [extend?, part]
  have sign : extend? { scan with part := .mark } (if isNegative then '-' else '+') =
      some { scan with part := .markSign, powerIsNegative := isNegative } := by
    cases isNegative <;> simp [extend?, positive]
  have first : extend? { scan with part := .markSign, powerIsNegative := isNegative } c =
      some { scan with
        part := .power
        powerIsNegative := isNegative
        power := 10 * scan.power + digit c } := by
    simp [extend?, hc]
  rw [extendAll?_cons mark, extendAll?_cons sign, extendAll?_cons first,
    extendAll?_power rfl fun d hd => digits d (List.mem_cons_of_mem _ hd)]
  rfl

/-- Digits of which the first is a zero only if it is alone. -/
structure IsWhole (digits : List Char) : Prop where
  digit : ∀ c ∈ digits, c.isDigit = true
  first : digits = ['0'] ∨ ∃ first rest, digits = first :: rest ∧ first ≠ '0'

/-- The scan of a number at the end of its whole part. -/
def whole (isNegative : Bool) (digits : List Char) : NumberScan :=
  ⟨if digits = ['0'] then .zero else .whole, isNegative, digits.foldl Digits.pushWhole .none, false,
    0⟩

theorem whole_part (isNegative : Bool) (digits : List Char) :
    (whole isNegative digits).part = .zero ∨ (whole isNegative digits).part = .whole := by
  unfold whole
  split_ifs <;> simp

theorem extendAll?_ofDigit (isNegative : Bool) {first : Char} {rest : List Char}
    (h : IsWhole (first :: rest)) :
    (ofDigit isNegative first).extendAll? rest = some (whole isNegative (first :: rest)) := by
  by_cases zero : first :: rest = ['0']
  · cases zero
    rfl
  · obtain alone | ⟨c, chars, same, nonzero⟩ := h.first
    · exact absurd alone zero
    · cases same
      have part : (ofDigit isNegative first).part = .whole := by simp [ofDigit, nonzero]
      rw [extendAll?_whole part fun d hd => h.digit d (List.mem_cons_of_mem _ hd)]
      simp [ofDigit, whole, nonzero]

theorem isWhole_toDigits (n : Nat) : IsWhole (Nat.toDigits 10 n) where
  digit c hc := Nat.isDigit_of_mem_toDigits (by decide) (by decide) hc
  first := by
    by_cases zero : n = 0
    · exact Or.inl (zero ▸ Nat.toDigits_zero 10)
    · exact Or.inr (Decimal.toDigits_head zero)

theorem isWhole_digits (d : Decimal) : IsWhole d.digits where
  digit c hc := Decimal.isDigit_of_mem_digits hc
  first := by
    by_cases zero : d.coefficient = 0
    · exact Or.inl (Decimal.digits_of_zero zero)
    · exact Or.inr (Decimal.digits_head zero)

/-- The first digits of several are the first digits of no zero. -/
theorem IsWhole.take {digits : List Char} (h : IsWhole digits) {count : Nat} (some : 0 < count)
    (few : count < digits.length) : IsWhole (digits.take count) where
  digit c hc := h.digit c (List.mem_of_mem_take hc)
  first := by
    obtain alone | ⟨first, rest, rfl, nonzero⟩ := h.first
    · rw [alone, List.length_singleton] at few
      omega
    · obtain ⟨less, rfl⟩ := Nat.exists_eq_succ_of_ne_zero some.ne'
      exact Or.inr ⟨first, rest.take less, rfl, nonzero⟩

/-- Nothing is put behind a zero. -/
theorem IsWhole.append_zeros {digits : List Char} (h : IsWhole digits) {count : Nat}
    (none : digits = ['0'] → count = 0) : IsWhole (digits ++ List.replicate count '0') where
  digit c hc := by
    obtain old | zero := List.mem_append.mp hc
    · exact h.digit c old
    · rw [List.eq_of_mem_replicate zero]
      rfl
  first := by
    obtain alone | ⟨first, rest, rfl, nonzero⟩ := h.first
    · exact Or.inl (by rw [none alone, alone]; rfl)
    · exact Or.inr ⟨first, rest ++ List.replicate count '0', rfl, nonzero⟩

end Token.NumberScan

open Token (Digits NumberScan)
open Token.NumberScan (IsWhole whole)

/-- What follows the sign is a number, and the number is this literal. -/
def Literal.WrittenAs (literal : Literal) (body : List Char) : Prop :=
  ∃ first rest scan, body = first :: rest ∧ first.isDigit = true ∧
    (NumberScan.ofDigit literal.isNegative first).extendAll? rest = some scan ∧
    scan.token = .number literal

theorem writtenAs_append {literal : Literal} {digits back : List Char} {scan : NumberScan}
    (h : IsWhole digits) (behind : (whole literal.isNegative digits).extendAll? back = some scan)
    (token : scan.token = .number literal) : literal.WrittenAs (digits ++ back) := by
  obtain ⟨first, rest, rfl⟩ : ∃ first rest, digits = first :: rest := by
    obtain alone | ⟨first, rest, same, _⟩ := h.first
    · exact ⟨'0', [], alone⟩
    · exact ⟨first, rest, same⟩
  refine ⟨first, rest ++ back, scan, rfl, h.digit first List.mem_cons_self, ?_, token⟩
  rw [NumberScan.extendAll?_append (NumberScan.extendAll?_ofDigit _ h), behind]

structure Numeral where
  front : List Char
  fraction : List Char
  /-- The exponent, if one is written. -/
  mark : Option Int

namespace Numeral

structure IsNumber (n : Numeral) : Prop where
  front : IsWhole n.front
  fraction : ∀ c ∈ n.fraction, c.isDigit = true

/-- The point is left out where nothing stands behind it. -/
def pointChars : List Char → List Char
  | [] => []
  | fraction => '.' :: fraction

theorem pointChars_of_ne_nil {fraction : List Char} (h : fraction ≠ []) :
    pointChars fraction = '.' :: fraction := by
  cases fraction with
  | nil => exact absurd rfl h
  | cons c rest => rfl

def markChars : Option Int → List Char
  | none => []
  | some exponent =>
      'e' :: (if exponent < 0 then '-' else '+') :: Nat.toDigits 10 exponent.natAbs

def chars (n : Numeral) : List Char := n.front ++ (pointChars n.fraction ++ markChars n.mark)

def frontDigits (n : Numeral) : Digits := n.front.foldl .pushWhole .none

def digits (n : Numeral) : Digits := n.fraction.foldl .pushFraction n.frontDigits.reopen

def literal (isNegative : Bool) (n : Numeral) : Literal where
  isNegative := isNegative
  decimal := ⟨n.digits.coefficient, n.digits.exponent + n.mark.getD 0⟩
  isWhole := n.fraction = [] ∧ n.mark = none ∧ n.frontDigits.isFull = false

/-- The scan of a number at the end of its fraction. -/
def beforeMark (isNegative : Bool) (n : Numeral) : NumberScan :=
  if n.fraction = [] then whole isNegative n.front
  else { whole isNegative n.front with part := .fraction, digits := n.digits }

theorem extendAll?_pointChars (isNegative : Bool) {n : Numeral} (h : n.IsNumber) :
    (whole isNegative n.front).extendAll? (pointChars n.fraction) =
      some (n.beforeMark isNegative) := by
  obtain ⟨front, fraction, mark⟩ := n
  cases fraction with
  | nil => rfl
  | cons c rest =>
      exact NumberScan.extendAll?_point (NumberScan.whole_part isNegative front) (by simp)
        h.fraction

theorem token_beforeMark (isNegative : Bool) {n : Numeral} (none : n.mark = none) :
    (n.beforeMark isNegative).token = .number (n.literal isNegative) := by
  obtain ⟨front, fraction, mark⟩ := n
  cases none
  cases fraction with
  | nil =>
      unfold beforeMark whole
      by_cases zero : front = ['0'] <;>
        simp [zero, NumberScan.token, NumberScan.literal, literal, digits, frontDigits,
          Digits.reopen]
  | cons c rest => simp [beforeMark, NumberScan.token, NumberScan.literal, literal, whole]

theorem beforeMark_part (isNegative : Bool) (n : Numeral) :
    (n.beforeMark isNegative).part = .zero ∨ (n.beforeMark isNegative).part = .whole ∨
      (n.beforeMark isNegative).part = .fraction := by
  unfold beforeMark
  split_ifs
  · exact (NumberScan.whole_part isNegative n.front).imp_right Or.inl
  · exact Or.inr (Or.inr rfl)

/-- The exponent that is written counts from the end of what stands before it. -/
theorem exists_token_mark (isNegative : Bool) {n : Numeral} {exponent : Int}
    (mark : n.mark = some exponent) :
    ∃ scan, (n.beforeMark isNegative).extendAll? (markChars (some exponent)) = some scan ∧
      scan.token = .number (n.literal isNegative) := by
  have power : (if exponent < 0 then -|exponent| else |exponent|) = exponent := by
    split_ifs with negative
    · rw [abs_of_neg negative, neg_neg]
    · exact abs_of_nonneg (not_lt.mp negative)
  obtain ⟨front, fraction, _⟩ := n
  cases mark
  have reads := NumberScan.extendAll?_mark
    (beforeMark_part isNegative ⟨front, fraction, some exponent⟩)
    (by unfold beforeMark; split_ifs <;> rfl) (decide (exponent < 0)) Nat.toDigits_ne_nil
    fun c (hc : c ∈ Nat.toDigits 10 exponent.natAbs) =>
      Nat.isDigit_of_mem_toDigits (by decide) (by decide) hc
  simp only [decide_eq_true_eq] at reads
  refine ⟨_, reads, ?_⟩
  cases fraction <;>
    simp [beforeMark, NumberScan.token, NumberScan.literal, literal, whole, digits, frontDigits,
      Digits.reopen, power]

/-- Every numeral is scanned, whatever its length. -/
theorem writtenAs_chars (isNegative : Bool) {n : Numeral} (h : n.IsNumber) :
    (n.literal isNegative).WrittenAs n.chars := by
  obtain ⟨scan, reads, token⟩ :
      ∃ scan, (n.beforeMark isNegative).extendAll? (markChars n.mark) = some scan ∧
        scan.token = .number (n.literal isNegative) := by
    cases mark : n.mark with
    | none => exact ⟨_, rfl, token_beforeMark isNegative mark⟩
    | some exponent => exact mark ▸ exists_token_mark isNegative mark
  refine writtenAs_append h.front ?_ token
  exact (NumberScan.extendAll?_append (extendAll?_pointChars isNegative h) _).trans reads

/-- The number that the digits stand for, were there room for all of them. -/
def decimal (n : Numeral) : Decimal :=
  ⟨valueOf (n.front ++ n.fraction), n.mark.getD 0 - n.fraction.length⟩

theorem literal_of_fits (isNegative : Bool) {n : Numeral}
    (fits : n.decimal.coefficient < 0x10000000000000000) :
    n.literal isNegative = ⟨isNegative, n.decimal, n.fraction = [] ∧ n.mark = none⟩ := by
  simp only [decimal, valueOf, Nat.ofDigitChars_append] at fits
  have front : n.frontDigits = ⟨valueOf n.front, 0, false⟩ :=
    Digits.foldl_pushWhole rfl ((Digits.le_ofDigitChars n.fraction _).trans_lt fits)
  have all : n.digits = ⟨valueOf (n.front ++ n.fraction), -(n.fraction.length : Int), false⟩ := by
    rw [digits, front, Digits.foldl_pushFraction rfl fits]
    simp [Digits.reopen, valueOf, Nat.ofDigitChars_append]
  have exponent : -(n.fraction.length : Int) + n.mark.getD 0 =
      n.mark.getD 0 - n.fraction.length := by
    omega
  simp only [literal, all, front, exponent, decimal, and_true]

end Numeral
end GraphEngine.Json
