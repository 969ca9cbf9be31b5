import VectorClient.Number.Single

/-!
# Vectors

One embedding, or the several of a multi-vector.
-/

namespace VectorClient

open Number

inductive VectorValue
  | single (lanes : List Single)
  | multi (rows : List (List Single))
deriving DecidableEq, Repr, Inhabited

namespace VectorValue

/-- A multi-vector with an empty row counts as empty. -/
def isEmpty : VectorValue → Bool
  | .single lanes => lanes.isEmpty
  | .multi rows => rows.isEmpty || rows.any List.isEmpty

def isMulti : VectorValue → Bool
  | .single _ => false
  | .multi _ => true

/-- The name of the vector of an object that has only one. -/
def defaultName : String := "default"

end VectorValue

end VectorClient
