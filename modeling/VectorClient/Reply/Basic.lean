import VectorClient.Property.Basic
import VectorClient.Vector.Basic

/-!
# Results

What a search returns: objects with their properties, references, metadata and vectors, alone, with
text generated from them, or in groups.
-/

namespace VectorClient

open Number

/-- What the server says about an object; each part only if the reply marks it as present. -/
structure Metadata where
  creationTime : Option Date := none
  lastUpdateTime : Option Date := none
  distance : Option Single := none
  certainty : Option Single := none
  score : Option Single := none
  explainScore : Option String := none
  isConsistent : Option Bool := none
  rerankScore : Option Double := none
deriving DecidableEq, Repr

structure Object where
  uuid : Uuid
  /-- Absent for a referenced object whose reply does not name its collection. -/
  collection : Option String
  properties : List (String × Property)
  /-- The objects under each reference; absent when no references were requested. -/
  references : Option (List (String × List Object))
  metadata : Metadata
  vectors : List (String × VectorValue)
deriving Repr

namespace Object

def reference? (o : Object) (link : String) : Option (List Object) :=
  o.references.bind (KeyMap.find? link)

end Object

structure Generated where
  object : Object
  text : Option String
deriving Repr

structure GenerativeResult where
  objects : List Generated
  text : Option String
deriving Repr

structure Group (α : Type) where
  name : String
  minDistance : Single
  maxDistance : Single
  numberOfObjects : Int64
  objects : List α
  rerankScore : Option Double
  text : Option String
deriving Repr

/-- Groups in the order of the server, and all objects behind each other with the names of their
groups. -/
structure GroupedResult (α : Type) where
  objects : List (String × α) := []
  groups : List (Group α) := []
  text : Option String := none
deriving Repr

namespace GroupedResult

variable {α : Type}

/-- One more group, with its objects. -/
def push (r : GroupedResult α) (g : Group α) : GroupedResult α :=
  { r with objects := r.objects ++ g.objects.map (g.name, ·), groups := r.groups ++ [g] }

def group? (r : GroupedResult α) (name : String) : Option (Group α) :=
  r.groups.find? (·.name = name)

end GroupedResult

end VectorClient
