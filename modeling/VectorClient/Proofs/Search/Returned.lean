import VectorClient.Proofs.Steps
import VectorClient.Search.Wire

/-!
# What comes back

A selection of properties is a tree: objects stand inside of objects, and references lead to
selections of their own. Its message asks for the same properties and objects at the same places.
-/

namespace VectorClient

namespace Search

/-! ### Levels -/

/-- What is asked for at one level: of the objects that are found, of those that a reference leads
to, or inside of an object. -/
structure Asked where
  selection : Option (List Selection)
  references : List ReferenceSelection := []

inductive Step
  | object (position : Nat)
  | reference (position : Nat)
deriving DecidableEq, Repr

def Selection.property? : Selection → Option String
  | .property name => some name
  | .object _ _ => none

def Selection.object? : Selection → Option (String × List Selection)
  | .property _ => none
  | .object name inside => some (name, inside)

namespace Asked

variable (a : Asked)

def properties : List String := (a.selection.getD []).filterMap Selection.property?

def objects : List (String × List Selection) := (a.selection.getD []).filterMap Selection.object?

def part? : Step → Option Asked
  | .object i => a.objects[i]?.map fun o => { selection := some o.2 }
  | .reference i =>
    a.references[i]?.map fun r => { selection := r.properties, references := r.references }

def at? : List Step → Asked → Option Asked
  | [], a => some a
  | s :: rest, a => (a.part? s).bind (at? rest)

def toWire : Wire.PropertiesRequest := propertiesRequest a.selection a.references

end Asked

end Search

namespace Wire

/-- What is asked for inside of an object: no references, and never all properties. -/
def ObjectPropertiesRequest.inside (o : ObjectPropertiesRequest) : PropertiesRequest :=
  ⟨o.primitiveProperties, [], o.objectProperties, false⟩

namespace PropertiesRequest

def part? (w : PropertiesRequest) : Search.Step → Option PropertiesRequest
  | .object i => w.objectProperties[i]?.map ObjectPropertiesRequest.inside
  | .reference i => w.refProperties[i]?.map RefPropertiesRequest.properties

def at? : List Search.Step → PropertiesRequest → Option PropertiesRequest
  | [], w => some w
  | s :: rest, w => (w.part? s).bind (at? rest)

end PropertiesRequest

def MetadataRequest.flags (w : MetadataRequest) : Search.MetadataSelection :=
  { creationTime := w.creationTimeUnix
    lastUpdateTime := w.lastUpdateTimeUnix
    distance := w.distance
    certainty := w.certainty
    score := w.score
    explainScore := w.explainScore
    isConsistent := w.isConsistent }

end Wire

namespace Search

/-! ### Steps of both -/

theorem plainNames_eq (selections : List Selection) :
    plainNames selections = selections.filterMap Selection.property? := by
  induction selections with
  | nil => rfl
  | cons s rest ih =>
    cases s with
    | property name => exact congrArg (name :: ·) ih
    | object name inside => exact ih

theorem objectRequests_eq (selections : List Selection) :
    objectRequests selections = (selections.filterMap Selection.object?).map fun o =>
      ⟨o.1, plainNames o.2, objectRequests o.2⟩ := by
  induction selections with
  | nil => rfl
  | cons s rest ih =>
    cases s with
    | property name => exact ih
    | object name inside => exact congrArg (_ :: ·) ih

theorem referenceRequests_eq (references : List ReferenceSelection) :
    referenceRequests references = references.map ReferenceSelection.toWire := by
  induction references with
  | nil => rfl
  | cons r rest ih => exact congrArg (_ :: ·) ih

theorem ReferenceSelection.toWire_eq (r : ReferenceSelection) :
    r.toWire =
      { referenceProperty := r.linkOn
        properties := propertiesRequest r.properties r.references
        metadata := r.metadata.toWire r.vectors
        targetCollection := r.targetCollection.getD "" } := by
  cases r
  rw [ReferenceSelection.toWire, propertiesRequest]

theorem Asked.part?_toWire (a : Asked) (s : Step) :
    a.toWire.part? s = (a.part? s).map Asked.toWire := by
  cases s with
  | object i =>
    change (objectRequests (a.selection.getD []))[i]?.map _ = _
    rw [objectRequests_eq, List.getElem?_map, Asked.part?, Option.map_map, Option.map_map]
    rfl
  | reference i =>
    change (referenceRequests a.references)[i]?.map _ = _
    rw [referenceRequests_eq, List.getElem?_map, Asked.part?, Option.map_map, Option.map_map]
    exact Option.map_congr fun r _ => congrArg (·.properties) r.toWire_eq

theorem Asked.at?_toWire (path : List Step) (a : Asked) :
    a.toWire.at? path = (a.at? path).map Asked.toWire := by
  induction path generalizing a with
  | nil => rfl
  | cons s rest ih =>
    rw [Asked.at?, Wire.PropertiesRequest.at?, a.part?_toWire]
    cases a.part? s with
    | none => rfl
    | some part => exact ih part

/-! ### What stands at a level -/

def VectorSelection.names : VectorSelection → List String
  | .named names => names
  | .none | .all => []

structure MetadataSelection.SentAs (m : MetadataSelection) (vectors : VectorSelection)
    (w : Wire.MetadataRequest) : Prop where
  uuid : w.uuid = true
  flags : w.flags = m
  all : w.vector = true ↔ vectors = .all
  named : w.vectors = vectors.names

structure ReferenceSelection.SentAs (r : ReferenceSelection) (w : Wire.RefPropertiesRequest) :
    Prop where
  link : w.referenceProperty = r.linkOn
  target : w.targetCollection = r.targetCollection.getD ""
  metadata : r.metadata.SentAs r.vectors w.metadata

structure Asked.SentAs (a : Asked) (w : Wire.PropertiesRequest) : Prop where
  properties : w.nonRefProperties = a.properties
  objects : w.objectProperties.map (·.propName) = a.objects.map Prod.fst
  all : w.returnAllNonrefProperties = true ↔ a.selection = none
  references : List.Forall₂ ReferenceSelection.SentAs a.references w.refProperties

theorem MetadataSelection.toWire_sentAs (m : MetadataSelection) (vectors : VectorSelection) :
    m.SentAs vectors (m.toWire vectors) where
  uuid := rfl
  flags := rfl
  all := decide_eq_true_iff
  named := by cases vectors <;> rfl

theorem ReferenceSelection.toWire_sentAs (r : ReferenceSelection) : r.SentAs r.toWire := by
  rw [r.toWire_eq]
  exact ⟨rfl, rfl, MetadataSelection.toWire_sentAs _ _⟩

theorem Asked.toWire_sentAs (a : Asked) : a.SentAs a.toWire where
  properties := plainNames_eq _
  objects := by
    change (objectRequests (a.selection.getD [])).map _ = _
    rw [objectRequests_eq, List.map_map]
    rfl
  all := Option.isNone_iff_eq_none
  references := by
    change List.Forall₂ _ _ (referenceRequests a.references)
    rw [referenceRequests_eq, List.forall₂_map_right_iff, List.forall₂_same]
    exact fun r _ => r.toWire_sentAs

/-! ### Places -/

inductive Frame
  | object (name : String)
  | reference (link : String)
deriving DecidableEq, Repr

inductive Node
  | property (name : String)
  | object (name : String)
deriving DecidableEq, Repr

structure Place where
  frames : List Frame := []
  node : Node
deriving DecidableEq, Repr

def Place.within (frame : Frame) (p : Place) : Place := ⟨frame :: p.frames, p.node⟩

def propertyPlaces (names : List String) : List Place :=
  names.map fun name => { node := .property name }

def objectPlaces (name : String) (inside : List Place) : List Place :=
  { node := .object name } :: inside.map (.within (.object name))

mutual

def Selection.places : Selection → List Place
  | .property name => [{ node := .property name }]
  | .object name inside => objectPlaces name (selectionPlaces inside)

def selectionPlaces : List Selection → List Place
  | [] => []
  | s :: rest => s.places ++ selectionPlaces rest

end

mutual

def ReferenceSelection.places : ReferenceSelection → List Place
  | ⟨linkOn, _, properties, _, references, _⟩ =>
    (selectionPlaces (properties.getD []) ++ referencePlaces references).map
      (.within (.reference linkOn))

def referencePlaces : List ReferenceSelection → List Place
  | [] => []
  | r :: rest => r.places ++ referencePlaces rest

end

def Asked.places (a : Asked) : List Place :=
  selectionPlaces (a.selection.getD []) ++ referencePlaces a.references

end Search

namespace Wire

open Search

mutual

def ObjectPropertiesRequest.places : ObjectPropertiesRequest → List Place
  | ⟨name, primitives, objects⟩ =>
    Search.objectPlaces name (propertyPlaces primitives ++ objectRequestPlaces objects)

def objectRequestPlaces : List ObjectPropertiesRequest → List Place
  | [] => []
  | o :: rest => o.places ++ objectRequestPlaces rest

end

mutual

def PropertiesRequest.places : PropertiesRequest → List Place
  | ⟨names, references, objects, _⟩ =>
    propertyPlaces names ++ objectRequestPlaces objects ++ referenceRequestPlaces references

def RefPropertiesRequest.places : RefPropertiesRequest → List Place
  | ⟨link, properties, _, _⟩ => properties.places.map (.within (.reference link))

def referenceRequestPlaces : List RefPropertiesRequest → List Place
  | [] => []
  | r :: rest => r.places ++ referenceRequestPlaces rest

end

end Wire

namespace Search

open Wire (objectRequestPlaces referenceRequestPlaces)

/-- Properties and objects are sent apart from each other, each at its place. -/
theorem selectionPlaces_perm : ∀ selections : List Selection,
    (propertyPlaces (plainNames selections) ++
      objectRequestPlaces (objectRequests selections)).Perm (selectionPlaces selections)
  | [] => .refl _
  | .property name :: rest => (selectionPlaces_perm rest).cons _
  | .object name inside :: rest => by
    have own : (objectPlaces name (propertyPlaces (plainNames inside) ++
        objectRequestPlaces (objectRequests inside))).Perm
          (objectPlaces name (selectionPlaces inside)) :=
      ((selectionPlaces_perm inside).map _).cons _
    -- The plain names of what follows are sent before the object.
    exact (List.perm_append_comm_assoc _ _ _).trans (own.append (selectionPlaces_perm rest))

theorem referencePlaces_perm : ∀ references : List ReferenceSelection,
    (referenceRequestPlaces (referenceRequests references)).Perm (referencePlaces references)
  | [] => .refl _
  | ⟨_, _, _, _, references, _⟩ :: rest =>
    (((selectionPlaces_perm _).append (referencePlaces_perm references)).map _).append
      (referencePlaces_perm rest)

/-- Every property and every object is asked for at its own place as often as it was selected, and
nothing else is. At each level, whatever path leads there, the properties, the objects and the
references stand in the order of the selection with all that was said of them, and all properties
are asked for iff nothing was selected. -/
theorem propertiesRequest_exact (selection : Option (List Selection))
    (references : List ReferenceSelection) :
    let asked : Asked := ⟨selection, references⟩
    let sent := propertiesRequest selection references
    sent.places.Perm asked.places ∧
      ∀ path, Option.Rel Asked.SentAs (asked.at? path) (sent.at? path) := by
  intro asked sent
  refine ⟨(selectionPlaces_perm _).append (referencePlaces_perm _), fun path => ?_⟩
  have here : sent.at? path = (asked.at? path).map Asked.toWire := asked.at?_toWire path
  rw [here]
  cases asked.at? path with
  | none => exact .none
  | some a => exact .some a.toWire_sentAs

/-- A property of an object, and one behind a reference. -/
example :
    (propertiesRequest (some [.object "author" [.property "name"], .property "title"])
      [{ linkOn := "mentions", properties := some [.property "name"] }]).places =
      [⟨[], .property "title"⟩, ⟨[], .object "author"⟩, ⟨[.object "author"], .property "name"⟩,
        ⟨[.reference "mentions"], .property "name"⟩] := by
  decide

end Search

end VectorClient
