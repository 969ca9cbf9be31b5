import VectorClient.Number.Double

/-!
# Singles

A `Single` is its 32-bit pattern. `toDouble` is exact and `ofDouble` rounds to the nearest.
-/

namespace VectorClient.Number

structure Single where
  bits : UInt32
deriving DecidableEq, Repr, Inhabited

namespace Single

def zero : Single := ⟨0⟩

def magnitude (x : Single) : Nat := x.bits.toNat % Format.single.signBit

def isNegative (x : Single) : Bool := Format.single.signBit ≤ x.bits.toNat

def isNaN (x : Single) : Bool := Format.single.infinity < x.magnitude

def isFinite (x : Single) : Bool := x.magnitude < Format.single.infinity

def isZero (x : Single) : Bool := x.magnitude = 0

def ofMagnitude (negative : Bool) (magnitude : Nat) : Single :=
  ⟨UInt32.ofNat (if negative then Format.single.signBit + magnitude else magnitude)⟩

/-- Not a number fails every comparison, and both zeros lie in the interval. -/
def inUnitInterval (x : Single) : Bool :=
  x.isZero || (!x.isNegative && x.magnitude ≤ Format.single.roundUnits Format.single.one 1)

def ofInt (n : Int) : Single :=
  ofMagnitude (n < 0) (Format.single.roundUnits (n.natAbs * Format.single.one) 1)

/-- Fraction bits that only doubles have. -/
def extraFractionBits : Nat := Format.double.fractionBits - Format.single.fractionBits

/-- The same value as a double; what is not a number keeps its leading fraction bits. -/
def toDouble (x : Single) : Double :=
  if x.magnitude < Format.single.infinity then
    .ofMagnitude x.isNegative
      (Format.double.roundUnits (Format.single.units x.magnitude * Format.double.one)
        Format.single.one)
  else
    let wide := Double.ofMagnitude x.isNegative
      (Format.double.infinity + (x.magnitude - Format.single.infinity) * pow2 extraFractionBits)
    if x.isNaN then wide.quiet else wide

def ofDouble (x : Double) : Single :=
  if x.isFinite then
    ofMagnitude x.isNegative
      (Format.single.roundUnits (Format.double.units x.magnitude * Format.single.one)
        Format.double.one)
  else if x.isNaN then
    let kept := (x.magnitude - Format.double.infinity) / pow2 extraFractionBits
    ofMagnitude x.isNegative (Format.single.infinity ||| pow2 (Format.single.fractionBits - 1) ||| kept)
  else
    ofMagnitude x.isNegative Format.single.infinity

end Single

end VectorClient.Number
