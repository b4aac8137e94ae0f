import GraphEngine.Decimal.Shortest

/-!
How a double is written: which decimals are written out, and which with an exponent.
-/
namespace GraphEngine.Decimal

/-- The choices that turn a double into text. -/
structure Layout where
  tie : Tie
  /-- Positions of the point at which the digits are written out in full. -/
  isWrittenOut : Int → Bool
  /-- Whether a whole number written out ends in a point and a zero. -/
  marksWhole : Bool

def zeros (count : Int) : List Char := List.replicate count.toNat '0'

namespace Layout

def writtenOut (layout : Layout) (digits : List Char) (point : Int) : List Char :=
  if point ≤ 0 then '0' :: '.' :: zeros (-point) ++ digits
  else if point < digits.length then
    digits.take point.toNat ++ '.' :: digits.drop point.toNat
  else
    digits ++ zeros (point - digits.length) ++ (if layout.marksWhole then ['.', '0'] else [])

/-- One digit before the point, and the sign of the exponent always. -/
def withExponent (digits : List Char) (point : Int) : List Char :=
  let exponent := point - 1
  let sign := if exponent < 0 then '-' else '+'
  let mantissa := match digits with
    | first :: second :: rest => first :: '.' :: second :: rest
    | short => short
  mantissa ++ 'e' :: sign :: Nat.toDigits 10 exponent.natAbs

def chars (layout : Layout) (d : Double) : List Char :=
  let decimal := shortest layout.tie d
  let body :=
    if layout.isWrittenOut decimal.point then layout.writtenOut decimal.digits decimal.point
    else withExponent decimal.digits decimal.point
  if d.isNegative then '-' :: body else body

def text (layout : Layout) (d : Double) : String := String.ofList (layout.chars d)

/-- Every digit is written out, and a whole number has no point. -/
def plain : Layout := ⟨.up, fun _ => true, false⟩

end Layout
end GraphEngine.Decimal
