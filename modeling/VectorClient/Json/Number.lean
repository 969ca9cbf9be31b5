import VectorClient.Json.Source
import VectorClient.Number.Power
import VectorClient.Text.Integer

/-!
# Numbers in JSON text

The digits of a number go into a word of 64 bits as far as it has room, and the rest into a power
of ten. Whole numbers that fit are exact. Others are the word times or divided by the power in
doubles, each step rounded, so that the last bit may differ from the nearest double.
-/

namespace VectorClient.Json

open VectorClient.Number

structure NumberParts where
  negative : Bool
  whole : List Nat
  fraction : Option (List Nat)
  /-- The sign is true for negative exponents. -/
  exponent : Option (Bool × List Nat)
deriving Repr

def maxWord : Nat := UInt64.size - 1

/-- Appends digits to the word while it has room; the digits that were left. -/
def takeDigits : Nat → List Nat → Nat × List Nat
  | word, [] => (word, [])
  | word, d :: rest =>
    if 10 * word + d ≤ maxWord then takeDigits (10 * word + d) rest else (word, d :: rest)

def powerOfTen (n : Nat) : Double := .ofInt (pow10 n)

/-- The greatest power of ten that is finite. -/
def maxPower : Nat := 308

/-- `x` times ten to the `exponent`, in steps that a double can hold; an overflow is no number.
After `steps` divisions every word has become zero. -/
def scale : Nat → Double → Int → Option Double
  | steps, x, exponent =>
    if exponent.natAbs ≤ maxPower then
      if 0 ≤ exponent then
        let y := x.mul (powerOfTen exponent.natAbs)
        if y.isFinite then some y else none
      else some (x.div (powerOfTen exponent.natAbs))
    else if x.isZero then some x
    else if 0 ≤ exponent then none
    else match steps with
      | 0 => some x
      | steps + 1 => scale steps (x.div (powerOfTen maxPower)) (exponent + maxPower)

/-- The exponent as written has at most 31 bits. -/
def maxExponent : Nat := pow2 31 - 1

def readExponent (digits : List Nat) : Option Nat :=
  digits.foldl (fun n d => n.bind fun n =>
    if 10 * n + d ≤ maxExponent then some (10 * n + d) else none) (some 0)

def signed (negative : Bool) (x : Double) : Double := if negative then x.neg else x

/-- The nearest exponent that 32 bits can hold. -/
def clamp (exponent : Int) : Int := max (-(maxExponent : Int) - 1) (min maxExponent exponent)

/-- The double of a word, a power of ten and an exponent as written. -/
def floating (negative : Bool) (word : Nat) (power : Int) (exponent : Option (Bool × List Nat)) :
    Option Double :=
  let ofPower (e : Int) := (scale 4 (.ofInt word) e).map (signed negative)
  match exponent with
  | none => ofPower power
  | some (below, digits) =>
    match readExponent digits with
    | some n => ofPower (clamp (if below then power - n else power + n))
    | none => if word ≠ 0 ∧ !below then none else some (signed negative .zero)

def NumberParts.source (p : NumberParts) : Source :=
  let (word, dropped) := takeDigits 0 p.whole
  let float (word : Nat) (power : Int) : Source :=
    match floating p.negative word power p.exponent with
    | some x => .double x
    | none => .noNumber
  match p.fraction with
  | some digits =>
    let (more, left) := takeDigits word digits
    float more (dropped.length - (digits.length - left.length))
  | none =>
    if p.exponent.isSome || !dropped.isEmpty then float word dropped.length
    else if !p.negative then .int word
    else if word = 0 ∨ pow2 63 < word then .double (Double.ofInt word).neg
    else .int (-word)

end VectorClient.Json
