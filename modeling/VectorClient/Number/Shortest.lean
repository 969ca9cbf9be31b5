import VectorClient.Number.Single

/-!
# Shortest decimal digits

The decimal of a finite nonzero magnitude is the nearest one to it among those with the fewest
digits that round back to it. Everything is exact `Nat` arithmetic on half units.
-/

namespace VectorClient.Number

/-- `digits` with a point after the first one, times ten to the `exponent`. -/
structure Decimal where
  digits : List Char
  exponent : Int
deriving DecidableEq, Repr

/-- How a tie between two equally near decimals is settled. -/
inductive Tie
  | away
  | even
deriving DecidableEq, Repr

def decimalDigits (n : Nat) : List Char := (toString n).toList

/-- The exponent of the leading decimal digit of `n / d`, for positive `n` and `d`. -/
def leadingExponent (n d : Nat) : Int :=
  if d ≤ n then ((decimalDigits (n / d)).length : Int) - 1
  else -((decimalDigits ((d - 1) / n)).length : Int)

/-- The reals that round to one magnitude: `low / den` to `high / den` about `mid / den`. -/
structure RoundingInterval where
  low : Nat
  mid : Nat
  high : Nat
  den : Nat
  closed : Bool

/-- The interval of a positive finite pattern; its ends round to the pattern iff it is even. -/
def Format.interval (f : Format) (pattern : Nat) : RoundingInterval :=
  { low := f.units (pattern - 1) + f.units pattern
    mid := 2 * f.units pattern
    high := f.units pattern + f.units (pattern + 1)
    den := 2 * f.one
    closed := pattern % 2 = 0 }

namespace RoundingInterval

/-- Whether `n / d` rounds to the magnitude. -/
def contains (i : RoundingInterval) (n d : Nat) : Bool :=
  let low := i.low * d
  let high := i.high * d
  let x := n * i.den
  if i.closed then low ≤ x && x ≤ high else low < x && x < high

/-- The whole number of steps of `pow10 step` nearest to the middle that lies in the interval. -/
def onGrid? (i : RoundingInterval) (tie : Tie) (step : Int) : Option Nat :=
  let scale := pow10 step.toNat
  let parts := pow10 (-step).toNat
  let num := i.mid * parts
  let den := i.den * scale
  let below := num / den
  let rest := num % den
  let inside (k : Nat) := i.contains (k * scale) parts
  match inside below, inside (below + 1) with
  | true, true =>
    if 2 * rest < den then some below
    else if den < 2 * rest then some (below + 1)
    else match tie with
      | .away => some (below + 1)
      | .even => some (below + below % 2)
  | true, false => some below
  | false, true => some (below + 1)
  | false, false => none

end RoundingInterval

/-- Without the zeros at the end, but with one digit at least. -/
def dropTrailingZeros (digits : List Char) : List Char :=
  match (digits.reverse.dropWhile (· = '0')).reverse with
  | [] => ['0']
  | kept => kept

/-- No magnitude of either format needs more digits than this. -/
def maxDigits : Nat := 17

/-- The shortest decimal of a positive finite magnitude pattern. -/
def Format.shortest (f : Format) (tie : Tie) (pattern : Nat) : Decimal :=
  let i := f.interval pattern
  let lead := leadingExponent i.mid i.den
  let found := (List.range maxDigits).findSome? fun (n : Nat) =>
    (i.onGrid? tie (lead - n)).map fun k => (k, lead - (n : Int))
  let (k, step) := found.getD (0, 0)
  let digits := decimalDigits k
  ⟨dropTrailingZeros digits, step + digits.length - 1⟩

end VectorClient.Number
