import VectorClient.Property.Typed
import VectorClient.Reply.Basic
import VectorClient.Vector.Typed

/-!
# Typed form of objects

Unlike the usual document, the typed form leaves out what is absent, tags each property with its
type, and keeps the bits of every number.
-/

namespace VectorClient

open Json

def Metadata.toTyped (m : Metadata) : Json :=
  Exact.record [
    ("creation_time", m.creationTime.map Exact.date),
    ("last_update_time", m.lastUpdateTime.map Exact.date),
    ("distance", m.distance.map Exact.single),
    ("certainty", m.certainty.map Exact.single),
    ("score", m.score.map Exact.single),
    ("explain_score", m.explainScore.map .string),
    ("is_consistent", m.isConsistent.map .bool),
    ("rerank_score", m.rerankScore.map Exact.double)]

mutual

def Object.toTyped : Object → Json
  | ⟨uuid, collection, properties, references, metadata, vectors⟩ =>
    Exact.record [
      ("uuid", some (Exact.uuid uuid)),
      ("collection", collection.map .string),
      ("properties", some (Properties.toTyped properties)),
      ("references", typedReferences references),
      ("metadata", some metadata.toTyped),
      ("vectors", some (.ofMap VectorValue.toTyped vectors))]

def typedReferences : Option (List (String × List Object)) → Option Json
  | none => none
  | some references => some (.object (typedLinks references))

def typedLinks : List (String × List Object) → List (String × Json)
  | [] => []
  | (link, objects) :: rest => (link, .array (typedItems objects)) :: typedLinks rest

def typedItems : List Object → List Json
  | [] => []
  | o :: rest => o.toTyped :: typedItems rest

end

end VectorClient
