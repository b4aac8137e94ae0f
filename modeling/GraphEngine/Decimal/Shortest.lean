import GraphEngine.Decimal.Basic

/-!
The shortest decimal that reads back as a given double.

For one digit, two digits and so on up to seventeen, the two decimals of that many digits around
the double are tried; the first count at which one of them reads back gives the answer, the nearer
of them when both do. The exact expansion stands behind them, so an answer always reads back.
-/
namespace GraphEngine.Decimal

/-- Which of two equally near decimals is taken. -/
inductive Tie where
  | even
  | up

/-- The number of digits before the point: least `e` with `num / den < 10 ^ e`. -/
def wholeDigits (num den : Nat) : Int :=
  if den ≤ num then (Nat.toDigits 10 (num / den)).length
  else 1 - (Nat.toDigits 10 ((den - 1) / num)).length

/-- The nearer of the two grid points around a value that lies `rest / den` above the lower one. -/
def nearer (tie : Tie) (lower : Nat) (rest den : Nat) : Nat :=
  if 2 * rest < den then lower
  else if den < 2 * rest then lower + 1
  else match tie with
    | .even => if lower % 2 = 0 then lower else lower + 1
    | .up => lower + 1

/-- The decimal of `count` digits that stands for the double, if one reads back as it. -/
def ofCount? (tie : Tie) (d : Double) (num den count : Nat) : Option Decimal :=
  let exponent := wholeDigits num den - count
  let num := num * powerOfTen (-exponent).toNat
  let den := den * powerOfTen exponent.toNat
  let lower := num / den
  let readsBack (coefficient : Nat) : Bool :=
    toDouble d.isNegative ⟨coefficient, exponent⟩ = d
  match readsBack lower, readsBack (lower + 1) with
  | true, true => some ⟨nearer tie lower (num % den) den, exponent⟩
  | true, false => some ⟨lower, exponent⟩
  | false, true => some ⟨lower + 1, exponent⟩
  | false, false => none

/-- The value of a finite double, digit for digit. -/
def exact (d : Double) : Decimal :=
  if 0 ≤ d.scale then ⟨d.significand <<< d.scale.toNat, 0⟩
  else ⟨d.significand * Nat.pow 5 (-d.scale).toNat, d.scale⟩

def shortest (tie : Tie) (d : Double) : Decimal :=
  if d.significand = 0 then ⟨0, 0⟩
  else
    let num := d.significand <<< d.scale.toNat
    let den := 1 <<< (-d.scale).toNat
    ((List.range 17).findSome? fun k => ofCount? tie d num den (k + 1)).getD (exact d)

end GraphEngine.Decimal
