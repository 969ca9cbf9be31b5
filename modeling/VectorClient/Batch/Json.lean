import VectorClient.Batch.Basic
import VectorClient.Property.Json
import VectorClient.Vector.Json

/-!
# Batches as documents

Fields are written in the order of their declaration. Alternatives are objects with the name of the
alternative as their key, and positions are keys in decimal digits.
-/

namespace VectorClient

def idsJson (ids : List Uuid) : Json := .ofList (fun id => .string id.text) ids

def ReferenceTargets.toJson : ReferenceTargets → Json
  | .single ids => .object [("Single", idsJson ids)]
  | .multi collection ids =>
    .object [("MultiTarget",
      .object [("target_collection", .string collection), ("uuids", idsJson ids)])]

def ObjectVectors.toJson : ObjectVectors → Json
  | .single lanes => .object [("Single", VectorValue.lanesJson lanes)]
  | .named vectors => .object [("Named", .ofMap VectorValue.toJson vectors)]

def BatchObject.toJson (o : BatchObject) : Json :=
  .object [
    ("collection", .string o.collection),
    ("properties", .ofOption Properties.toJson o.properties),
    ("references", .ofOption (.ofMap ReferenceTargets.toJson) o.references),
    ("id", .ofOption (fun id => .string id.text) o.id),
    ("vectors", .ofOption ObjectVectors.toJson o.vectors),
    ("tenant", .ofOption .string o.tenant)]

def RefusedObject.toJson (e : RefusedObject) : Json :=
  .object [
    ("message", .string e.message),
    ("object", e.object.toJson),
    ("original_uuid", .ofOption (fun id => .string id.text) e.givenId)]

def BatchResponse.toJson : BatchResponse → Json
  | .inserted id => .object [("Uuid", .string id.text)]
  | .refused error => .object [("Error", error.toJson)]

def byPosition {α : Type} (f : α → Json) (entries : List (Nat × α)) : Json :=
  .object (entries.map fun (i, a) => (toString i, f a))

def BatchResult.toJson (r : BatchResult) : Json :=
  .object [
    ("uuids", byPosition (fun id => .string id.text) r.ids),
    ("errors", byPosition RefusedObject.toJson r.errors),
    ("all_responses", .ofList BatchResponse.toJson r.responses),
    ("has_errors", .bool r.hasErrors),
    ("elapsed_seconds", .double r.elapsedSeconds)]

end VectorClient
