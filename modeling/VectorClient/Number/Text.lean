import VectorClient.Number.Shortest

/-!
# Written numbers

A `Layout` says how the shortest decimal of a float is written. `Layout.message` is the one of
error messages and `Layout.literal` the one of quoted literals. JSON text has one for each width,
`Layout.jsonDouble` and `Layout.jsonSingle`.
-/

namespace VectorClient.Number

/-- How floats are written. -/
structure Layout where
  /-- Exponents from here on are written positionally. -/
  leastPositional : Option Int
  /-- Exponents below this are written positionally. -/
  positionalBound : Option Int
  /-- Whole numbers end in a point and a zero. -/
  marksWhole : Bool
  /-- A positive exponent has a sign. -/
  signsExponent : Bool
  tie : Tie

namespace Layout

/-- Messages never show an exponent. -/
def message : Layout :=
  { leastPositional := none, positionalBound := none, marksWhole := false, signsExponent := false
    tie := .away }

/-- Literals show an exponent from `1e16` on and below `1e-4`. -/
def literal : Layout :=
  { leastPositional := some (-4), positionalBound := some 16, marksWhole := true
    signsExponent := false, tie := .away }

/-- JSON text shows an exponent of a double from `1e+16` on and below `1e-5`. -/
def jsonDouble : Layout :=
  { leastPositional := some (-5), positionalBound := some 16, marksWhole := true
    signsExponent := true, tie := .even }

/-- JSON text shows an exponent of a single from `1e+13` on and below `1e-6`. -/
def jsonSingle : Layout :=
  { jsonDouble with leastPositional := some (-6), positionalBound := some 13 }

def isPositional (l : Layout) (exponent : Int) : Bool :=
  l.leastPositional.all (· ≤ exponent) && l.positionalBound.all (exponent < ·)

def zeros (n : Nat) : List Char := List.replicate n '0'

/-- The digits with a point where the exponent puts it. -/
def positional (l : Layout) (x : Decimal) : List Char :=
  let size : Int := x.digits.length
  if x.exponent < 0 then
    ['0', '.'] ++ zeros (-x.exponent - 1).toNat ++ x.digits
  else if size ≤ x.exponent + 1 then
    x.digits ++ zeros (x.exponent + 1 - size).toNat ++ if l.marksWhole then ['.', '0'] else []
  else
    let whole := (x.exponent + 1).toNat
    x.digits.take whole ++ ['.'] ++ x.digits.drop whole

/-- One digit before the point, and the exponent. -/
def scientific (l : Layout) (x : Decimal) : List Char :=
  let lead := x.digits.take 1
  let rest := x.digits.drop 1
  let sign := if x.exponent < 0 then ['-'] else if l.signsExponent then ['+'] else []
  lead ++ (if rest = [] then [] else '.' :: rest) ++ ['e'] ++ sign ++
    decimalDigits x.exponent.natAbs

def decimal (l : Layout) (x : Decimal) : List Char :=
  if l.isPositional x.exponent then l.positional x else l.scientific x

def text (l : Layout) (f : Format) (negative : Bool) (magnitude : Nat) : String :=
  if f.infinity < magnitude then "NaN"
  else
    let unsigned :=
      if magnitude = f.infinity then ['i', 'n', 'f']
      else if magnitude = 0 then if l.marksWhole then ['0', '.', '0'] else ['0']
      else l.decimal (f.shortest l.tie magnitude)
    String.ofList (if negative then '-' :: unsigned else unsigned)

end Layout

def Double.text (l : Layout) (x : Double) : String := l.text .double x.isNegative x.magnitude

def Single.text (l : Layout) (x : Single) : String := l.text .single x.isNegative x.magnitude

end VectorClient.Number
