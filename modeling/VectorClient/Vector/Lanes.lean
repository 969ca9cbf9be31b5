import VectorClient.Chunks
import VectorClient.Error
import VectorClient.Number.Power
import VectorClient.Wire.Decode

/-!
# Lanes

Vectors and number lists travel as lanes of four or eight bytes, the lowest byte first. Whole
numbers use the lanes of doubles. Rows of a multi-vector share their dimension, which stands in
front as two bytes.
-/

namespace VectorClient.Vector

open Number Wire

/-- The lanes of a byte string that divides into them. -/
def lanes (size : Nat) (b : Bytes) : Except Error (List Nat) :=
  if b.length % size = 0 then
    .ok ((chunks size b).map ofLittleEndian)
  else
    .error (.malformedVector b.length size)

def encode (v : List Single) : Bytes := v.flatMap fun x => littleEndian 4 x.bits.toNat

def encodeDoubles (v : List Double) : Bytes := v.flatMap fun x => littleEndian 8 x.bits.toNat

/-- Each number as the nearest double. -/
def encodeInts (v : List Int64) : Bytes := encodeDoubles (v.map fun n => .ofInt n.toInt)

def decode (b : Bytes) : Except Error (List Single) :=
  (lanes 4 b).map (·.map fun n => ⟨UInt32.ofNat n⟩)

def decodeDoubles (b : Bytes) : Except Error (List Double) :=
  (lanes 8 b).map (·.map fun n => ⟨UInt64.ofNat n⟩)

/-- The whole number nearest to a lane, if it fits 64 bits with a sign. -/
def decodeInt (lane : Double) : Except Error Int64 :=
  match lane.round? with
  | some n =>
    if fitsSigned 64 n then .ok (Int64.ofInt n) else .error (.wireDecode (.intLane lane))
  | none => .error (.wireDecode (.intLane lane))

def decodeInts (b : Bytes) : Except Error (List Int64) := do
  let doubles ← decodeDoubles b
  doubles.mapM decodeInt

/-! ### Multi-vectors -/

def maxDimension : Nat := 65535

/-- The length of the first row. -/
def dimension : List (List Single) → Nat
  | [] => 0
  | row :: _ => row.length

def encodeMulti (rows : List (List Single)) : Except Error Bytes :=
  let dim := dimension rows
  if rows.any (·.length ≠ dim) then .error (.invalidInput .raggedRows)
  else if maxDimension < dim then .error (.invalidInput (.dimensionTooLarge dim))
  else .ok (littleEndian 2 dim ++ rows.flatMap encode)

def decodeMulti : Bytes → Except Error (List (List Single))
  | [] => .ok []
  | [_] => .error (.malformedVector 1 2)
  | low :: high :: rest => do
    let dim := ofLittleEndian [low, high]
    let v ← decode rest
    if dim = 0 then
      if v = [] then return [] else .error (.wireDecode .dimensionZero)
    else if v.length % dim = 0 then return chunks dim v
    else .error (.malformedVector rest.length (dim * 4))

end VectorClient.Vector
