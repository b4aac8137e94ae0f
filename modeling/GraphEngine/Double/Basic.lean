/-!
Doubles kept as their 64 bits.

Two doubles are equal when their bits are, so signed zeros and every not-a-number pattern stay
apart. A finite double of sign `s` is read as `± significand * 2 ^ scale`.
-/
namespace GraphEngine

structure Double where
  bits : UInt64
deriving DecidableEq

namespace Double

/-- What the highest bit, the sign, counts for. -/
def signWeight : Nat := 0x8000000000000000

/-- What the lowest bit of the exponent field counts for; the fraction field lies below it. -/
def exponentWeight : Nat := 0x0010000000000000

def isNegative (d : Double) : Bool := signWeight ≤ d.bits.toNat

def exponentField (d : Double) : Nat := d.bits.toNat / exponentWeight % 2048

def fractionField (d : Double) : Nat := d.bits.toNat % exponentWeight

/-- Infinities and not-a-number patterns have the largest exponent field. -/
def isFinite (d : Double) : Bool := d.exponentField != 2047

def significand (d : Double) : Nat :=
  if d.exponentField = 0 then d.fractionField else exponentWeight + d.fractionField

def scale (d : Double) : Int := (max d.exponentField 1 : Nat) - 1075

/-- The double with the given sign and, below it, the given exponent and fraction fields. -/
def ofFields (isNegative : Bool) (fields : Nat) : Double :=
  ⟨UInt64.ofNat ((if isNegative then signWeight else 0) + fields)⟩

def zero : Double := ⟨0⟩

def one : Double := ⟨0x3FF0000000000000⟩

def infinity (isNegative : Bool) : Double := ofFields isNegative (2047 * exponentWeight)

/-- Sums are those of the floating-point unit. -/
def add (x y : Double) : Double := ⟨(Float.ofBits x.bits + Float.ofBits y.bits).toBits⟩

instance : Add Double := ⟨add⟩

end Double
end GraphEngine
