import VectorClient.Number.Format

/-!
# Doubles

A `Double` is its 64-bit pattern, so equality of doubles is equality bit for bit.
-/

namespace VectorClient.Number

structure Double where
  bits : UInt64
deriving DecidableEq, Repr, Inhabited

namespace Double

def zero : Double := ⟨0⟩

def magnitude (x : Double) : Nat := x.bits.toNat % Format.double.signBit

def isNegative (x : Double) : Bool := Format.double.signBit ≤ x.bits.toNat

def isNaN (x : Double) : Bool := Format.double.infinity < x.magnitude

def isFinite (x : Double) : Bool := x.magnitude < Format.double.infinity

def isZero (x : Double) : Bool := x.magnitude = 0

def ofMagnitude (negative : Bool) (magnitude : Nat) : Double :=
  ⟨UInt64.ofNat (if negative then Format.double.signBit + magnitude else magnitude)⟩

/-- The signed number of units of a finite double. -/
def units (x : Double) : Int :=
  let n : Int := Format.double.units x.magnitude
  if x.isNegative then -n else n

/-- The double nearest to `n / d` units; `negative` is the sign of a zero result too. -/
def ofUnits (negative : Bool) (n d : Nat) : Double :=
  ofMagnitude negative (Format.double.roundUnits n d)

def ofInt (n : Int) : Double := ofUnits (n < 0) (n.natAbs * Format.double.one) 1

/-- The whole number nearest to a finite double, halves away from zero. -/
def round? (x : Double) : Option Int :=
  if x.isFinite then
    let n : Int := (2 * Format.double.units x.magnitude + Format.double.one) /
      (2 * Format.double.one)
    some (if x.isNegative then -n else n)
  else
    none

/-- The result of an operation without one. -/
def notANumber : Double := ⟨0xfff8000000000000⟩

def infinity (negative : Bool) : Double := ofMagnitude negative Format.double.infinity

/-- The same value with the quiet bit set, as an operation passes on what is not a number. -/
def quiet (x : Double) : Double := ⟨x.bits ||| 0x0008000000000000⟩

def add (x y : Double) : Double :=
  if x.isNaN then x.quiet
  else if y.isNaN then y.quiet
  else if x.isFinite then
    if y.isFinite then
      let sum := x.units + y.units
      ofUnits (if sum = 0 then x.isNegative && y.isNegative else sum < 0) sum.natAbs 1
    else y
  else if y.isFinite || x.isNegative == y.isNegative then x
  else notANumber

/-- The correctly rounded product of finite doubles. -/
def mul (x y : Double) : Double :=
  ofUnits (x.isNegative != y.isNegative)
    (Format.double.units x.magnitude * Format.double.units y.magnitude) Format.double.one

/-- The correctly rounded quotient of finite doubles, the second not zero. -/
def div (x y : Double) : Double :=
  ofUnits (x.isNegative != y.isNegative)
    (Format.double.units x.magnitude * Format.double.one) (Format.double.units y.magnitude)

def neg (x : Double) : Double := ⟨x.bits ^^^ 0x8000000000000000⟩

end Double

end VectorClient.Number
