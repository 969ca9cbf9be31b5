import VectorClient.Json.Exact
import VectorClient.Vector.Basic

/-!
# Typed form of vectors

The usual document of a vector without lanes is that of a multi-vector without rows. The typed form
tells them apart by its key.
-/

namespace VectorClient.VectorValue

open Json

def toTyped : VectorValue → Json
  | .single lanes => .object [("single", .ofList Exact.single lanes)]
  | .multi rows => .object [("multi", .ofList (.ofList Exact.single) rows)]

def ofTyped? (j : Json) : Option VectorValue :=
  match Exact.onlyMember? j with
  | some ("single", v) => (Exact.list? Exact.single? v).map .single
  | some ("multi", v) => (Exact.list? (Exact.list? Exact.single?) v).map .multi
  | _ => none

end VectorClient.VectorValue
