import VectorClient.Wire.Property
import VectorClient.Wire.Vectors

/-!
# Reply messages

The answer to a search: results with metadata and properties, where the properties of a result
hold the objects that it refers to, to any depth.
-/

namespace VectorClient.Wire

open Number

structure MetadataResult where
  id : String := ""
  vector : List Single := []
  creationTimeUnix : Int64 := 0
  creationTimeUnixPresent : Bool := false
  lastUpdateTimeUnix : Int64 := 0
  lastUpdateTimeUnixPresent : Bool := false
  distance : Single := .zero
  distancePresent : Bool := false
  certainty : Single := .zero
  certaintyPresent : Bool := false
  score : Single := .zero
  scorePresent : Bool := false
  explainScore : String := ""
  explainScorePresent : Bool := false
  isConsistent : Option Bool := none
  generative : String := ""
  generativePresent : Bool := false
  isConsistentPresent : Bool := false
  vectorBytes : Bytes := []
  idAsBytes : Bytes := []
  rerankScore : Double := .zero
  rerankScorePresent : Bool := false
  vectors : List Vectors := []
deriving DecidableEq, Repr

mutual

structure PropertiesResult where
  refProps : List RefPropertiesResult := []
  targetCollection : String := ""
  metadata : Option MetadataResult := none
  nonRefProps : Option Properties := none
  refPropsRequested : Bool := false

structure RefPropertiesResult where
  properties : List PropertiesResult := []
  propName : String := ""

end

deriving instance Repr for PropertiesResult, RefPropertiesResult

structure SearchResult where
  properties : Option PropertiesResult := none
  metadata : Option MetadataResult := none
deriving Repr

structure GroupByResult where
  name : String := ""
  minDistance : Single := .zero
  maxDistance : Single := .zero
  numberOfObjects : Int64 := 0
  objects : List SearchResult := []
  /-- The score of the reranking, if it took place. -/
  rerank : Option Double := none
  generative : Option String := none
deriving Repr

structure SearchReply where
  took : Single := .zero
  results : List SearchResult := []
  generativeGroupedResult : Option String := none
  groupByResults : List GroupByResult := []
deriving Repr

def MetadataResult.ofFields (f : Fields) : MetadataResult :=
  { id := f.string 1
    vector := f.floats 2
    creationTimeUnix := f.int64 3
    creationTimeUnixPresent := f.bool 4
    lastUpdateTimeUnix := f.int64 5
    lastUpdateTimeUnixPresent := f.bool 6
    distance := f.float 7
    distancePresent := f.bool 8
    certainty := f.float 9
    certaintyPresent := f.bool 10
    score := f.float 11
    scorePresent := f.bool 12
    explainScore := f.string 13
    explainScorePresent := f.bool 14
    isConsistent := f.bool? 15
    generative := f.string 16
    generativePresent := f.bool 17
    isConsistentPresent := f.bool 18
    vectorBytes := f.bytes 19
    idAsBytes := f.bytes 20
    rerankScore := f.double 21
    rerankScorePresent := f.bool 22
    vectors := (f.messages 23).map .ofFields }

mutual

/-- The references of a result; its other fields are flat. -/
def referencesOfFields : List (Nat × Datum) → List RefPropertiesResult
  | [] => []
  | (2, .list ds) :: _ => referencesOfMessages ds
  | (_, _) :: rest => referencesOfFields rest

def referencesOfMessages : List Datum → List RefPropertiesResult
  | [] => []
  | .message f :: rest =>
    { properties := resultsOfFields f, propName := Fields.string 2 f } :: referencesOfMessages rest
  | _ :: rest => referencesOfMessages rest

def resultsOfFields : List (Nat × Datum) → List PropertiesResult
  | [] => []
  | (1, .list ds) :: _ => resultsOfMessages ds
  | (_, _) :: rest => resultsOfFields rest

def resultsOfMessages : List Datum → List PropertiesResult
  | [] => []
  | .message f :: rest =>
    { refProps := referencesOfFields f
      targetCollection := Fields.string 3 f
      metadata := (Fields.message? 4 f).map .ofFields
      nonRefProps := (Fields.message? 11 f).map Properties.ofFields
      refPropsRequested := Fields.bool 12 f } :: resultsOfMessages rest
  | _ :: rest => resultsOfMessages rest

end

def PropertiesResult.ofFields (f : Fields) : PropertiesResult :=
  { refProps := referencesOfFields f
    targetCollection := f.string 3
    metadata := (f.message? 4).map .ofFields
    nonRefProps := (f.message? 11).map Properties.ofFields
    refPropsRequested := f.bool 12 }

def SearchResult.ofFields (f : Fields) : SearchResult :=
  { properties := (f.message? 1).map .ofFields, metadata := (f.message? 2).map .ofFields }

def GroupByResult.ofFields (f : Fields) : GroupByResult :=
  { name := f.string 1
    minDistance := f.float 2
    maxDistance := f.float 3
    numberOfObjects := f.int64 4
    objects := (f.messages 5).map .ofFields
    rerank := (f.message? 6).map (Fields.double 1)
    generative := (f.message? 7).map (Fields.string 1) }

def SearchReply.ofFields (f : Fields) : SearchReply :=
  { took := f.float 1
    results := (f.messages 2).map .ofFields
    generativeGroupedResult := f.string? 3
    groupByResults := (f.messages 4).map .ofFields }

end VectorClient.Wire
