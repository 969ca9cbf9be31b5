import VectorClient.Number.Power

/-!
# Binary floating-point formats

A format stores a sign, a biased exponent and a fraction. The magnitude of a finite pattern is a
whole number of `units` of the smallest exponent, so all arithmetic is exact `Nat` arithmetic
followed by `roundUnits`, the only place where anything is rounded.
-/

namespace VectorClient.Number

/-- The whole number nearest to `n / d`; a half goes to the even neighbour. -/
def roundDiv (n d : Nat) : Nat :=
  let q := n / d
  let r := n % d
  if 2 * r < d then q else if d < 2 * r then q + 1 else q + q % 2

structure Format where
  fractionBits : Nat
  exponentBits : Nat
deriving DecidableEq, Repr

namespace Format

def single : Format := ⟨23, 8⟩

def double : Format := ⟨52, 11⟩

/-- The magnitude pattern of infinity; greater magnitudes are not numbers. -/
def infinity (f : Format) : Nat := (pow2 f.exponentBits - 1) * pow2 f.fractionBits

/-- The sign bit as a number, which bounds the magnitude patterns. -/
def signBit (f : Format) : Nat := pow2 (f.fractionBits + f.exponentBits)

/-- A unit is `1 / pow2 f.unitBits`. -/
def unitBits (f : Format) : Nat := pow2 (f.exponentBits - 1) + f.fractionBits - 2

/-- How many units make one. -/
def one (f : Format) : Nat := pow2 f.unitBits

/-- The value of a magnitude pattern, counted in units. -/
def units (f : Format) (pattern : Nat) : Nat :=
  let biased := pattern / pow2 f.fractionBits
  let fraction := pattern % pow2 f.fractionBits
  if biased = 0 then fraction else (pow2 f.fractionBits + fraction) * pow2 (biased - 1)

/-- The magnitude pattern nearest to `n / d` units, ties to even, overflow to infinity. -/
def roundUnits (f : Format) (n d : Nat) : Nat :=
  let shift := (n / d).log2 - f.fractionBits
  min (shift * pow2 f.fractionBits + roundDiv n (d * pow2 shift)) f.infinity

end Format

end VectorClient.Number
