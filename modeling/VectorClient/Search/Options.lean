import VectorClient.Filter.Basic
import VectorClient.KeyMap
import VectorClient.Vector.Basic

/-!
# Searches

What a caller asks for: the kind of search with its own options, and the options that all kinds
share.
-/

namespace VectorClient

open Number

/-- How many replicas must answer. -/
inductive ConsistencyLevel
  | one
  | quorum
  | all
deriving DecidableEq, Repr

namespace ConsistencyLevel

def name : ConsistencyLevel → String
  | .one => "ONE"
  | .quorum => "QUORUM"
  | .all => "ALL"

def levels : List ConsistencyLevel := [.one, .quorum, .all]

/-- Reads a name in letters of either case. -/
def read? (raw : String) : Option ConsistencyLevel :=
  levels.find? fun l => raw.toList.map Char.toUpper = l.name.toList

end ConsistencyLevel

structure CollectionContext where
  name : String
  tenant : Option String := none
  consistencyLevel : Option ConsistencyLevel := none
  /-- Objects have named vectors instead of a single anonymous one. -/
  usesNamedVectors : Bool := false
deriving DecidableEq, Repr

namespace Search

/-- Which vectors come back with an object. -/
inductive VectorSelection
  | none
  | all
  | named (names : List String)
deriving DecidableEq, Repr

/-- Which metadata comes back; the id always does. -/
structure MetadataSelection where
  creationTime : Bool := false
  lastUpdateTime : Bool := false
  distance : Bool := false
  certainty : Bool := false
  score : Bool := false
  explainScore : Bool := false
  isConsistent : Bool := false
deriving DecidableEq, Repr

def MetadataSelection.full : MetadataSelection := ⟨true, true, true, true, true, true, true⟩

/-- A property, or an object with the properties to return from it. -/
inductive Selection
  | property (name : String)
  | object (name : String) (selections : List Selection)
deriving Repr, BEq

/-- A reference to follow, with a selection of its own. -/
structure ReferenceSelection where
  linkOn : String
  targetCollection : Option String := Option.none
  /-- All plain properties if absent. -/
  properties : Option (List Selection) := Option.none
  metadata : MetadataSelection := {}
  references : List ReferenceSelection := []
  vectors : VectorSelection := .none
deriving Repr, BEq

structure SortKey where
  property : String
  ascending : Bool
deriving DecidableEq, Repr

structure Rerank where
  property : String
  query : Option String
deriving DecidableEq, Repr

structure CommonOptions where
  filter : Option Filter := Option.none
  limit : Option UInt32 := Option.none
  offset : Option UInt32 := Option.none
  autocut : Option UInt32 := Option.none
  vectors : VectorSelection := .none
  metadata : MetadataSelection := {}
  /-- All plain properties if absent. -/
  properties : Option (List Selection) := Option.none
  references : List ReferenceSelection := []
  rerank : Option Rerank := Option.none
deriving Repr, BEq

structure FetchOptions where
  /-- Objects after this one in the order of ids. -/
  after : Option Uuid := Option.none
  sort : List SortKey := []
  common : CommonOptions := {}
deriving Repr, BEq

/-- How many words of a query must match. -/
inductive KeywordOperator
  | and
  | or (minimumMatch : UInt32)
deriving DecidableEq, Repr

structure KeywordOptions where
  queryProperties : List String := []
  operator : Option KeywordOperator := Option.none
  common : CommonOptions := {}
deriving Repr, BEq

/-- How the distances to several target vectors are joined. -/
inductive Combination
  | sum
  | minimum
  | average
  | relativeScore
  | manualWeights
deriving DecidableEq, Repr

namespace Combination

def name : Combination → String
  | .sum => "Sum"
  | .minimum => "Minimum"
  | .average => "Average"
  | .relativeScore => "RelativeScore"
  | .manualWeights => "ManualWeights"

def needsWeights : Combination → Bool
  | .relativeScore | .manualWeights => true
  | _ => false

end Combination

structure TargetWeight where
  target : String
  weight : Single
deriving DecidableEq, Repr

inductive TargetVectors
  | single (name : String)
  | many (names : List String)
  | combined (combination : Combination) (targets : List String) (weights : List TargetWeight)
deriving DecidableEq, Repr

namespace TargetVectors

/-- The names in the order of selection. -/
def names : TargetVectors → List String
  | .single name => [name]
  | .many names => names
  | .combined _ targets _ => targets

def sum (targets : List String) : TargetVectors := .combined .sum targets []

def minimum (targets : List String) : TargetVectors := .combined .minimum targets []

def average (targets : List String) : TargetVectors := .combined .average targets []

/-- Targets are the keys of their weights. -/
def weighted (combination : Combination) (weights : KeyMap Single) : TargetVectors :=
  .combined combination weights.keys (weights.map fun (target, weight) => ⟨target, weight⟩)

end TargetVectors

inductive VectorInput
  | single (lanes : List Single)
  | multi (rows : List (List Single))
  | perTarget (vectors : KeyMap VectorValue)
deriving DecidableEq, Repr

structure NearOptions where
  certainty : Option Double := Option.none
  distance : Option Double := Option.none
  target : Option TargetVectors := Option.none
  common : CommonOptions := {}
deriving Repr, BEq

/-- A shift towards or away from concepts and objects. -/
structure Move where
  force : Single
  concepts : List String := []
  objects : List Uuid := []
deriving DecidableEq, Repr

structure NearTextOptions where
  near : NearOptions := {}
  moveTo : Option Move := Option.none
  moveAway : Option Move := Option.none
deriving Repr, BEq

inductive Media
  | image
  | audio
  | video
  | depth
  | thermal
  | imu
deriving DecidableEq, Repr

def Media.name : Media → String
  | .image => "image"
  | .audio => "audio"
  | .video => "video"
  | .depth => "depth"
  | .thermal => "thermal"
  | .imu => "imu"

/-- How the two halves of a hybrid search are ranked together. -/
inductive Fusion
  | ranked
  | relativeScore
deriving DecidableEq, Repr

/-- The vector half of a hybrid search. -/
inductive HybridVector
  | vector (input : VectorInput)
  | nearText (query : List String) (certainty distance : Option Double)
      (moveTo moveAway : Option Move)
  | nearVector (input : VectorInput) (certainty distance : Option Double)
deriving DecidableEq, Repr

structure HybridOptions where
  /-- From keywords alone at 0 to vectors alone at 1. -/
  alpha : Single
  vector : Option HybridVector := Option.none
  queryProperties : List String := []
  fusion : Option Fusion := Option.none
  maxVectorDistance : Option Single := Option.none
  target : Option TargetVectors := Option.none
  operator : Option KeywordOperator := Option.none
  common : CommonOptions := {}
deriving Repr, BEq

/-- The single nearest to 0.7. -/
def HybridOptions.defaultAlpha : Single := ⟨0x3f333333⟩

structure GroupByOptions where
  property : String
  numberOfGroups : UInt32
  objectsPerGroup : UInt32
deriving DecidableEq, Repr

structure GenerativeOptions where
  /-- Run once for each object. -/
  singlePrompt : Option String := Option.none
  /-- Run once for all objects. -/
  groupedTask : Option String := Option.none
  groupedProperties : List String := []
deriving DecidableEq, Repr

inductive MediaSource
  | base64 (content : String)
  | bytes (content : List UInt8)
  | file (path : String)
deriving DecidableEq, Repr

end Search

open Search in
inductive Search
  | fetch (options : FetchOptions)
  | keywords (query : String) (options : KeywordOptions)
  | hybrid (query : Option String) (options : HybridOptions)
  | nearObject (id : Uuid) (options : NearOptions)
  | nearVector (input : VectorInput) (options : NearOptions)
  | nearText (query : List String) (options : NearTextOptions)
  | nearMedia (media : Media) (source : MediaSource) (options : NearOptions)
deriving Repr, BEq

end VectorClient
