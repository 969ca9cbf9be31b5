import VectorClient.Json.Source
import VectorClient.Search.Options

/-!
# Consistency levels as documents
-/

namespace VectorClient.ConsistencyLevel

open Json (Source)

def toJson (level : ConsistencyLevel) : Json := .string level.name

/-- Names are taken in capitals only. -/
def ofSource? : Json.Decoder ConsistencyLevel := fun s => do
  let (name, value) ← s.variant?
  let level ← levels.find? (·.name = name)
  if Source.isUnit value then return level else none

end VectorClient.ConsistencyLevel
