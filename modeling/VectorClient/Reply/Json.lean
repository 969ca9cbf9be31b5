import VectorClient.Property.Json
import VectorClient.Reply.Basic
import VectorClient.Vector.Json

/-!
# Results as documents

Every field is written, in the order of its declaration, with null for an absent one.
-/

namespace VectorClient

def dateJson (d : Date) : Json := .string d.text

def Metadata.toJson (m : Metadata) : Json :=
  .object [
    ("creation_time", .ofOption dateJson m.creationTime),
    ("last_update_time", .ofOption dateJson m.lastUpdateTime),
    ("distance", .ofOption .single m.distance),
    ("certainty", .ofOption .single m.certainty),
    ("score", .ofOption .single m.score),
    ("explain_score", .ofOption .string m.explainScore),
    ("is_consistent", .ofOption .bool m.isConsistent),
    ("rerank_score", .ofOption .double m.rerankScore)]

mutual

def Object.toJson : Object → Json
  | ⟨uuid, collection, properties, references, metadata, vectors⟩ =>
    .object [
      ("uuid", .string uuid.text),
      ("collection", .ofOption .string collection),
      ("properties", .object (propertyEntries properties)),
      ("references", referencesJson references),
      ("metadata", metadata.toJson),
      ("vectors", .ofMap VectorValue.toJson vectors)]

def referencesJson : Option (List (String × List Object)) → Json
  | none => .null
  | some references => .object (referenceEntries references)

def referenceEntries : List (String × List Object) → List (String × Json)
  | [] => []
  | (name, objects) :: rest =>
    (name, .object [("objects", .array (objectItems objects))]) :: referenceEntries rest

def objectItems : List Object → List Json
  | [] => []
  | o :: rest => o.toJson :: objectItems rest

end

def objectsJson (objects : List Object) : Json := .object [("objects", .ofList Object.toJson objects)]

def Generated.toJson (g : Generated) : Json :=
  .object [("object", g.object.toJson), ("generated", .ofOption .string g.text)]

def GenerativeResult.toJson (r : GenerativeResult) : Json :=
  .object [
    ("objects", .ofList Generated.toJson r.objects),
    ("generated", .ofOption .string r.text)]

def Group.toJson {α : Type} (item : α → Json) (g : Group α) : Json :=
  .object [
    ("name", .string g.name),
    ("min_distance", .single g.minDistance),
    ("max_distance", .single g.maxDistance),
    ("number_of_objects", .int g.numberOfObjects.toInt),
    ("objects", .ofList item g.objects),
    ("rerank_score", .ofOption .double g.rerankScore),
    ("generated", .ofOption .string g.text)]

def GroupedResult.toJson {α : Type} (item : α → Json) (r : GroupedResult α) : Json :=
  .object [
    ("objects", .ofList
      (fun (name, o) => .object [("object", item o), ("belongs_to_group", .string name)])
      r.objects),
    ("groups", .ofList (Group.toJson item) r.groups),
    ("generated", .ofOption .string r.text)]

end VectorClient
