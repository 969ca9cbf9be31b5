import VectorClient.Json.Source
import VectorClient.Vector.Basic

/-!
# Vectors as documents

A vector is a list of numbers, a multi-vector a list of such lists. The empty list is a vector.
-/

namespace VectorClient.VectorValue

open Number
open Json (Source)

def lanesJson (lanes : List Single) : Json := .ofList .single lanes

def toJson : VectorValue → Json
  | .single lanes => lanesJson lanes
  | .multi rows => .ofList lanesJson rows

def ofSource? : Json.Decoder VectorValue := fun s =>
  match s.list? Source.single? with
  | some lanes => some (.single lanes)
  | none => (s.list? (Source.list? Source.single?)).map .multi

end VectorClient.VectorValue
