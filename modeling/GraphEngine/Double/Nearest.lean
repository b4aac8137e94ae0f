import GraphEngine.Double.Basic

/-!
The double nearest to a fraction of natural numbers, a tie going to the even significand, and the
products and quotients that are rounded that way.

`nearest` takes the least scale, not below that of the smallest doubles, at which the rounded
quotient has at most 53 bits. What is too large for that becomes an infinity.
-/
namespace GraphEngine.Double

/-- The quotient rounded to a whole number, a half going to the even neighbour. -/
def roundHalfEven (num den : Nat) : Nat :=
  let below := num / den
  let twice := 2 * (num % den)
  if twice < den ∨ (twice = den ∧ below % 2 = 0) then below else below + 1

def leastScale : Int := -1074

def greatestScale : Int := 971

/-- The power of two that the fraction reaches but does not double. -/
def binaryExponent (num den : Nat) : Int :=
  let guess : Int := (num.log2 : Int) - den.log2
  if den <<< guess.toNat ≤ num <<< (-guess).toNat then guess else guess - 1

/-- The double with a significand of at most 53 bits at a scale not below `leastScale`. -/
def ofSignificand (isNegative : Bool) (significand : Nat) (scale : Int) : Double :=
  if significand < exponentWeight then ofFields isNegative significand
  else if significand = 2 * exponentWeight then
    ofFields isNegative ((scale + 1076).toNat * exponentWeight)
  else ofFields isNegative ((scale + 1074).toNat * exponentWeight + significand)

def nearest (isNegative : Bool) (num den : Nat) : Double :=
  if num = 0 then ofFields isNegative 0
  else
    let scale := max leastScale (binaryExponent num den - 52)
    let significand := roundHalfEven (num <<< (-scale).toNat) (den <<< scale.toNat)
    if greatestScale < scale ∨ (scale = greatestScale ∧ significand = 2 * exponentWeight) then
      infinity isNegative
    else ofSignificand isNegative significand scale

/-- A whole number as a double, rounded where it has more than 53 bits. -/
def ofInt (n : Int) : Double := nearest (n < 0) n.natAbs 1

/-- The size of a finite double is this numerator over its denominator. -/
def numerator (d : Double) : Nat := d.significand <<< d.scale.toNat

def denominator (d : Double) : Nat := 1 <<< (-d.scale).toNat

/-- The product of finite doubles. -/
def mul (x y : Double) : Double :=
  nearest (x.isNegative != y.isNegative) (x.numerator * y.numerator) (x.denominator * y.denominator)

/-- The quotient of finite doubles, of which the second is no zero. -/
def div (x y : Double) : Double :=
  nearest (x.isNegative != y.isNegative) (x.numerator * y.denominator) (x.denominator * y.numerator)

end GraphEngine.Double
