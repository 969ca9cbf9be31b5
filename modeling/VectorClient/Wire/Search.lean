import VectorClient.Wire.Encode
import VectorClient.Wire.Filter
import VectorClient.Wire.Vectors

/-!
# Search messages

The request for one search: what is returned, what restricts and orders the result, and at most
one field that says what is searched for.
-/

namespace VectorClient.Wire

open Number

structure GroupBy where
  path : List String
  numberOfGroups : Int32
  objectsPerGroup : Int32
deriving DecidableEq, Repr

structure SortBy where
  ascending : Bool
  path : List String
deriving DecidableEq, Repr

structure GenerativeSearch where
  singleResponsePrompt : String
  groupedResponseTask : String
  groupedProperties : List String
deriving DecidableEq, Repr

structure Rerank where
  property : String
  query : Option String
deriving DecidableEq, Repr

structure MetadataRequest where
  uuid : Bool
  vector : Bool
  creationTimeUnix : Bool
  lastUpdateTimeUnix : Bool
  distance : Bool
  certainty : Bool
  score : Bool
  explainScore : Bool
  isConsistent : Bool
  vectors : List String
deriving DecidableEq, Repr

structure ObjectPropertiesRequest where
  propName : String
  primitiveProperties : List String
  objectProperties : List ObjectPropertiesRequest
deriving Repr, BEq

mutual

structure PropertiesRequest where
  nonRefProperties : List String
  refProperties : List RefPropertiesRequest
  objectProperties : List ObjectPropertiesRequest
  returnAllNonrefProperties : Bool

structure RefPropertiesRequest where
  referenceProperty : String
  properties : PropertiesRequest
  metadata : MetadataRequest
  targetCollection : String

end

deriving instance Repr, BEq for PropertiesRequest, RefPropertiesRequest

structure SearchOperatorOptions where
  operator : Int32
  minimumOrTokensMatch : Option Int32
deriving DecidableEq, Repr

structure Bm25 where
  query : String
  properties : List String
  searchOperator : Option SearchOperatorOptions
deriving DecidableEq, Repr

structure NearVector where
  vector : List Single := []
  certainty : Option Double := none
  distance : Option Double := none
  vectorBytes : Bytes := []
  targetVectors : List String := []
  targets : Option Targets := none
  vectorPerTarget : KeyMap Bytes := []
  vectorForTargets : List VectorForTarget := []
  vectors : List Vectors := []
deriving DecidableEq, Repr

structure NearObject where
  id : String
  certainty : Option Double
  distance : Option Double
  targetVectors : List String
  targets : Option Targets
deriving DecidableEq, Repr

structure Move where
  force : Single
  concepts : List String
  uuids : List String
deriving DecidableEq, Repr

structure NearText where
  query : List String
  certainty : Option Double
  distance : Option Double
  moveTo : Option Move
  moveAway : Option Move
  targetVectors : List String := []
  targets : Option Targets := none
deriving DecidableEq, Repr

/-- A search near a medium; the medium is known from the field that holds the message. -/
structure NearMedia where
  content : String
  certainty : Option Double
  distance : Option Double
  targetVectors : List String
  targets : Option Targets
deriving DecidableEq, Repr

structure Hybrid where
  query : String
  properties : List String
  vector : List Single := []
  alpha : Single
  fusionType : Int32
  vectorBytes : Bytes := []
  targetVectors : List String
  nearText : Option NearText := none
  nearVector : Option NearVector := none
  targets : Option Targets
  bm25SearchOperator : Option SearchOperatorOptions
  vectorDistance : Option Single
deriving DecidableEq, Repr

structure SearchRequest where
  collection : String
  tenant : String := ""
  consistencyLevel : Option Int32 := none
  properties : Option PropertiesRequest := none
  metadata : Option MetadataRequest := none
  groupBy : Option GroupBy := none
  limit : UInt32 := 0
  offset : UInt32 := 0
  autocut : UInt32 := 0
  after : String := ""
  sortBy : List SortBy := []
  filters : Option Filters := none
  hybridSearch : Option Hybrid := none
  bm25Search : Option Bm25 := none
  nearVector : Option NearVector := none
  nearObject : Option NearObject := none
  nearText : Option NearText := none
  nearImage : Option NearMedia := none
  nearAudio : Option NearMedia := none
  nearVideo : Option NearMedia := none
  nearDepth : Option NearMedia := none
  nearThermal : Option NearMedia := none
  nearImu : Option NearMedia := none
  generative : Option GenerativeSearch := none
  rerank : Option Rerank := none
  uses123Api : Bool := false
  uses125Api : Bool := false
  uses127Api : Bool := false
deriving Repr, BEq

/-! ### Contents -/

def message {α : Type} (tag : Nat) (toFields : α → Fields) (value : Option α) : Fields :=
  .optional tag (value.map fun v => .message (toFields v))

def GroupBy.toFields (g : GroupBy) : Fields :=
  texts 1 g.path ++ .plain 2 (.int32 g.numberOfGroups) ++ .plain 3 (.int32 g.objectsPerGroup)

def SortBy.toFields (s : SortBy) : Fields := .plain 1 (.bool s.ascending) ++ texts 2 s.path

def GenerativeSearch.toFields (g : GenerativeSearch) : Fields :=
  .plain 1 (.string g.singleResponsePrompt) ++ .plain 2 (.string g.groupedResponseTask) ++
    texts 3 g.groupedProperties

def Rerank.toFields (r : Rerank) : Fields :=
  .plain 1 (.string r.property) ++ .optional 2 (r.query.map .string)

def MetadataRequest.toFields (m : MetadataRequest) : Fields :=
  .plain 1 (.bool m.uuid) ++ .plain 2 (.bool m.vector) ++ .plain 3 (.bool m.creationTimeUnix) ++
    .plain 4 (.bool m.lastUpdateTimeUnix) ++ .plain 5 (.bool m.distance) ++
    .plain 6 (.bool m.certainty) ++ .plain 7 (.bool m.score) ++ .plain 8 (.bool m.explainScore) ++
    .plain 9 (.bool m.isConsistent) ++ texts 10 m.vectors

mutual

def ObjectPropertiesRequest.toFields : ObjectPropertiesRequest → Fields
  | ⟨name, primitives, objects⟩ =>
    .plain 1 (.string name) ++ texts 2 primitives ++ .repeated 3 (objectPropertiesMessages objects)

def objectPropertiesMessages : List ObjectPropertiesRequest → List Datum
  | [] => []
  | o :: rest => .message o.toFields :: objectPropertiesMessages rest

end

mutual

def PropertiesRequest.toFields : PropertiesRequest → Fields
  | ⟨names, references, objects, all⟩ =>
    texts 1 names ++ .repeated 2 (referenceMessages references) ++
      .repeated 3 (objectPropertiesMessages objects) ++ .plain 11 (.bool all)

def RefPropertiesRequest.toFields : RefPropertiesRequest → Fields
  | ⟨name, properties, metadata, collection⟩ =>
    Fields.plain 1 (.string name) ++ [(2, .message properties.toFields)] ++
      [(3, .message metadata.toFields)] ++ Fields.plain 4 (.string collection)

def referenceMessages : List RefPropertiesRequest → List Datum
  | [] => []
  | r :: rest => .message r.toFields :: referenceMessages rest

end

def SearchOperatorOptions.toFields (o : SearchOperatorOptions) : Fields :=
  .plain 1 (.int32 o.operator) ++ .optional 2 (o.minimumOrTokensMatch.map .int32)

def Bm25.toFields (b : Bm25) : Fields :=
  .plain 1 (.string b.query) ++ texts 2 b.properties ++
    message 3 SearchOperatorOptions.toFields b.searchOperator

def NearVector.toFields (n : NearVector) : Fields :=
  .repeated 1 (n.vector.map .float) ++ .optional 2 (n.certainty.map .double) ++
    .optional 3 (n.distance.map .double) ++ .plain 4 (.bytes n.vectorBytes) ++
    texts 5 n.targetVectors ++ message 6 Targets.toFields n.targets ++
    .map 7 (n.vectorPerTarget.map fun (name, b) => (name, .bytes b)) ++
    .repeated 8 (n.vectorForTargets.map fun v => .message v.toFields) ++
    .repeated 9 (n.vectors.map fun v => .message v.toFields)

def NearObject.toFields (n : NearObject) : Fields :=
  .plain 1 (.string n.id) ++ .optional 2 (n.certainty.map .double) ++
    .optional 3 (n.distance.map .double) ++ texts 4 n.targetVectors ++
    message 5 Targets.toFields n.targets

def Move.toFields (m : Move) : Fields :=
  .plain 1 (.float m.force) ++ texts 2 m.concepts ++ texts 3 m.uuids

def NearText.toFields (n : NearText) : Fields :=
  texts 1 n.query ++ .optional 2 (n.certainty.map .double) ++
    .optional 3 (n.distance.map .double) ++ message 4 Move.toFields n.moveTo ++
    message 5 Move.toFields n.moveAway ++ texts 6 n.targetVectors ++
    message 7 Targets.toFields n.targets

def NearMedia.toFields (n : NearMedia) : Fields :=
  .plain 1 (.string n.content) ++ .optional 2 (n.certainty.map .double) ++
    .optional 3 (n.distance.map .double) ++ texts 4 n.targetVectors ++
    message 5 Targets.toFields n.targets

def Hybrid.toFields (h : Hybrid) : Fields :=
  .plain 1 (.string h.query) ++ texts 2 h.properties ++ .repeated 3 (h.vector.map .float) ++
    .plain 4 (.float h.alpha) ++ .plain 5 (.int32 h.fusionType) ++ .plain 6 (.bytes h.vectorBytes) ++
    texts 7 h.targetVectors ++ message 8 NearText.toFields h.nearText ++
    message 9 NearVector.toFields h.nearVector ++ message 10 Targets.toFields h.targets ++
    message 11 SearchOperatorOptions.toFields h.bm25SearchOperator ++
    .optional 20 (h.vectorDistance.map .float)

def SearchRequest.toFields (r : SearchRequest) : Fields :=
  .plain 1 (.string r.collection) ++ .plain 10 (.string r.tenant) ++
    .optional 11 (r.consistencyLevel.map .int32) ++
    message 20 PropertiesRequest.toFields r.properties ++
    message 21 MetadataRequest.toFields r.metadata ++ message 22 GroupBy.toFields r.groupBy ++
    .plain 30 (.uint32 r.limit) ++ .plain 31 (.uint32 r.offset) ++ .plain 32 (.uint32 r.autocut) ++
    .plain 33 (.string r.after) ++ .repeated 34 (r.sortBy.map fun s => .message s.toFields) ++
    message 40 Filters.toFields r.filters ++ message 41 Hybrid.toFields r.hybridSearch ++
    message 42 Bm25.toFields r.bm25Search ++ message 43 NearVector.toFields r.nearVector ++
    message 44 NearObject.toFields r.nearObject ++ message 45 NearText.toFields r.nearText ++
    message 46 NearMedia.toFields r.nearImage ++ message 47 NearMedia.toFields r.nearAudio ++
    message 48 NearMedia.toFields r.nearVideo ++ message 49 NearMedia.toFields r.nearDepth ++
    message 50 NearMedia.toFields r.nearThermal ++ message 51 NearMedia.toFields r.nearImu ++
    message 60 GenerativeSearch.toFields r.generative ++ message 61 Rerank.toFields r.rerank ++
    .plain 100 (.bool r.uses123Api) ++ .plain 101 (.bool r.uses125Api) ++
    .plain 102 (.bool r.uses127Api)

def SearchRequest.encode (r : SearchRequest) : Bytes := Wire.encode .searchRequest r.toFields

end VectorClient.Wire
