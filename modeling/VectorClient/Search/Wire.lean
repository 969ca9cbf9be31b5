import VectorClient.Capability
import VectorClient.Filter.Wire
import VectorClient.Number.Power
import VectorClient.Vector.Wire
import VectorClient.Wire.Search

/-!
# Search options on the wire

The messages that stand for single options, with the numbers of the contract.
-/

namespace VectorClient

def ConsistencyLevel.number : ConsistencyLevel → Int32
  | .one => 1
  | .quorum => 2
  | .all => 3

namespace Search

def Combination.number : Combination → Int32
  | .sum => 1
  | .minimum => 2
  | .average => 3
  | .relativeScore => 4
  | .manualWeights => 5

def Fusion.number : Fusion → Int32
  | .ranked => 1
  | .relativeScore => 2

/-- Counts on the wire have 32 bits with a sign. -/
def toInt32? (n : UInt32) : Option Int32 := if n.toNat < Number.pow2 31 then some n.toInt32 else none

namespace KeywordOperator

def orNumber : Int32 := 1
def andNumber : Int32 := 2

def toWire : KeywordOperator → Except Error Wire.SearchOperatorOptions
  | .and => .ok ⟨andNumber, none⟩
  | .or minimum =>
    match toInt32? minimum with
    | some n => .ok ⟨orNumber, some n⟩
    | none => .error (.invalidInput (.matchTooLarge minimum))

end KeywordOperator

/-- A force from 0 to 1 and at least one concept or object. -/
def Move.toWire (m : Move) : Except Error Wire.Move :=
  if !m.force.inUnitInterval then .error (.invalidInput (.moveForce m.force))
  else if m.concepts.isEmpty && m.objects.isEmpty then .error (.invalidInput .emptyMove)
  else .ok ⟨m.force, m.concepts, m.objects.map Uuid.text⟩

def Move.toWire? : Option Move → Except Error (Option Wire.Move)
  | none => .ok none
  | some m => m.toWire.map some

/-! ### Selections -/

def MetadataSelection.toWire (m : MetadataSelection) (vectors : VectorSelection) :
    Wire.MetadataRequest :=
  { uuid := true
    vector := vectors = .all
    creationTimeUnix := m.creationTime
    lastUpdateTimeUnix := m.lastUpdateTime
    distance := m.distance
    certainty := m.certainty
    score := m.score
    explainScore := m.explainScore
    isConsistent := m.isConsistent
    vectors := match vectors with
      | .named names => names
      | _ => [] }

/-- The plain properties of a selection in order. -/
def plainNames : List Selection → List String
  | [] => []
  | .property name :: rest => name :: plainNames rest
  | .object _ _ :: rest => plainNames rest

mutual

/-- The object that a selection asks for, if it asks for one. -/
def Selection.toWire? : Selection → Option Wire.ObjectPropertiesRequest
  | .property _ => none
  | .object name selections => some ⟨name, plainNames selections, objectRequests selections⟩

def objectRequests : List Selection → List Wire.ObjectPropertiesRequest
  | [] => []
  | s :: rest => s.toWire?.toList ++ objectRequests rest

end

mutual

def ReferenceSelection.toWire : ReferenceSelection → Wire.RefPropertiesRequest
  | ⟨linkOn, targetCollection, properties, metadata, references, vectors⟩ =>
    { referenceProperty := linkOn
      properties :=
        { nonRefProperties := plainNames (properties.getD [])
          refProperties := referenceRequests references
          objectProperties := objectRequests (properties.getD [])
          returnAllNonrefProperties := properties.isNone }
      metadata := metadata.toWire vectors
      targetCollection := targetCollection.getD "" }

def referenceRequests : List ReferenceSelection → List Wire.RefPropertiesRequest
  | [] => []
  | r :: rest => r.toWire :: referenceRequests rest

end

/-- Everything that a selection asks for; without one all plain properties come back. -/
def propertiesRequest (selection : Option (List Selection))
    (references : List ReferenceSelection) : Wire.PropertiesRequest :=
  { nonRefProperties := plainNames (selection.getD [])
    refProperties := referenceRequests references
    objectProperties := objectRequests (selection.getD [])
    returnAllNonrefProperties := selection.isNone }

end Search

end VectorClient
