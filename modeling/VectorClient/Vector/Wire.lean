import VectorClient.Vector.Lanes
import VectorClient.Wire.Vectors

/-!
# Vectors on the wire

A vector is written with its name and the number of its type. All vectors of an object are
collected in one map, where the anonymous one has the name `default`.
-/

namespace VectorClient

open Number

namespace VectorValue

def unspecifiedType : Int32 := 0
def singleType : Int32 := 1
def multiType : Int32 := 2

def toWire (name : String) : VectorValue → Except Error Wire.Vectors
  | .single v => .ok { name, vectorBytes := Vector.encode v, type := singleType }
  | .multi rows => do
    let bytes ← Vector.encodeMulti rows
    return { name, vectorBytes := bytes, type := multiType }

/-- A vector without a type is a single one. -/
def ofWire (v : Wire.Vectors) : Except Error VectorValue :=
  if v.type = multiType then (Vector.decodeMulti v.vectorBytes).map .multi
  else if v.type = singleType ∨ v.type = unspecifiedType then
    (Vector.decode v.vectorBytes).map .single
  else .error (.wireDecode (.vectorType v.type v.name))

end VectorValue

namespace Vector

/-- Adds named vectors to a map in order, so that the last of one name stays. -/
def collect (named : List Wire.Vectors) (found : KeyMap VectorValue) :
    Except Error (KeyMap VectorValue) :=
  named.foldlM (fun found v => do
    let value ← VectorValue.ofWire v
    return KeyMap.insert v.name value found) found

/-- The vectors of an object by name; the anonymous one counts unless it is empty. -/
def decodeAll (anonymous : Wire.Bytes) (named : List Wire.Vectors) :
    Except Error (KeyMap VectorValue) := do
  if anonymous = [] then collect named []
  else
    let v ← decode anonymous
    collect named [(VectorValue.defaultName, .single v)]

end Vector

end VectorClient
