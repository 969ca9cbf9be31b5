import VectorClient.Number.Double
import VectorClient.Property.Basic
import VectorClient.Vector.Basic

/-!
# Batches

The objects of an insert and its outcome. Position is the only link between the two: the response
at a position belongs to the object at that position. `merge` puts the outcomes of consecutive
parts together.
-/

namespace VectorClient

open Number

/-- The objects that a reference leads to; a collection is named where there are several. -/
inductive ReferenceTargets
  | single (ids : List Uuid)
  | multi (collection : String) (ids : List Uuid)
deriving DecidableEq, Repr

inductive ObjectVectors
  | single (lanes : List Single)
  | named (vectors : List (String × VectorValue))
deriving DecidableEq, Repr

/-- An object to insert. Without a collection it goes into the one that inserts it. -/
structure BatchObject where
  collection : String := ""
  properties : Option Properties := none
  references : Option (KeyMap ReferenceTargets) := none
  id : Option Uuid := none
  vectors : Option ObjectVectors := none
  /-- Counts before the tenant of the batch, even if it is empty. -/
  tenant : Option String := none
deriving Repr, BEq

structure RefusedObject where
  message : String
  object : BatchObject
  givenId : Option Uuid
deriving Repr, BEq

inductive BatchResponse
  | inserted (id : Uuid)
  | refused (error : RefusedObject)
deriving Repr, BEq

/-- The outcome of an insert by position: the ids, the refused objects, and both in one list. -/
structure BatchResult where
  ids : List (Nat × Uuid) := []
  errors : List (Nat × RefusedObject) := []
  responses : List BatchResponse := []
  hasErrors : Bool := false
  elapsedSeconds : Double := .zero
deriving Repr, BEq

namespace BatchResult

/-- Moves positions behind those of the `offset` objects before. -/
def shift {α : Type} (offset : Nat) (entries : List (Nat × α)) : List (Nat × α) :=
  entries.map fun (i, a) => (i + offset, a)

def merge (first second : BatchResult) : BatchResult :=
  let offset := first.responses.length
  { ids := first.ids ++ shift offset second.ids
    errors := first.errors ++ shift offset second.errors
    responses := first.responses ++ second.responses
    hasErrors := first.hasErrors || second.hasErrors
    elapsedSeconds := first.elapsedSeconds.add second.elapsedSeconds }

def push (r : BatchResult) (response : BatchResponse) : BatchResult :=
  let i := r.responses.length
  match response with
  | .inserted id =>
    { r with ids := r.ids ++ [(i, id)], responses := r.responses ++ [response] }
  | .refused error =>
    { r with
      errors := r.errors ++ [(i, error)]
      responses := r.responses ++ [response]
      hasErrors := true }

end BatchResult

end VectorClient
