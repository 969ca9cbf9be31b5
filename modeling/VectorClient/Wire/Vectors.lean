import VectorClient.Wire.Datum

/-!
# Vector messages

Vectors as named byte strings, and the selection of the named vectors that a search runs on.
-/

namespace VectorClient.Wire

open Number

structure Vectors where
  name : String := ""
  index : UInt64 := 0
  vectorBytes : Bytes := []
  type : Int32 := 0
deriving DecidableEq, Repr

structure WeightForTarget where
  target : String
  weight : Single
deriving DecidableEq, Repr

structure Targets where
  targetVectors : List String
  combination : Int32 := 0
  weights : KeyMap Single := []
  weightsForTargets : List WeightForTarget := []
deriving DecidableEq, Repr

structure VectorForTarget where
  name : String
  vectorBytes : Bytes := []
  vectors : List Vectors := []
deriving DecidableEq, Repr

def texts (tag : Nat) (values : List String) : Fields := .repeated tag (values.map .string)

namespace Vectors

def toFields (v : Vectors) : Fields :=
  .plain 1 (.string v.name) ++ .plain 2 (.uint64 v.index) ++ .plain 3 (.bytes v.vectorBytes) ++
    .plain 4 (.int32 v.type)

def ofFields (f : Fields) : Vectors :=
  { name := f.string 1, index := f.uint64 2, vectorBytes := f.bytes 3, type := f.int32 4 }

end Vectors

def WeightForTarget.toFields (w : WeightForTarget) : Fields :=
  .plain 1 (.string w.target) ++ .plain 2 (.float w.weight)

def Targets.toFields (t : Targets) : Fields :=
  texts 1 t.targetVectors ++ .plain 2 (.int32 t.combination) ++
    .map 3 (t.weights.map fun (name, w) => (name, .float w)) ++
    .repeated 4 (t.weightsForTargets.map fun w => .message w.toFields)

def VectorForTarget.toFields (v : VectorForTarget) : Fields :=
  .plain 1 (.string v.name) ++ .plain 2 (.bytes v.vectorBytes) ++
    .repeated 3 (v.vectors.map fun x => .message x.toFields)

end VectorClient.Wire
