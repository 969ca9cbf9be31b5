import VectorClient.Wire.Message

/-!
# Requests as they are received

What a server makes of the contents of a request: each field under its tag, and absence as the
default.
-/

namespace VectorClient.Wire

open Number

namespace Fields

def uint32 (tag : Nat) (f : Fields) : UInt32 :=
  match f.get? tag with
  | some (.uint32 n) => n
  | _ => 0

def int64s (tag : Nat) (f : Fields) : List Int64 :=
  (f.list tag).filterMap fun
    | .int64 n => some n
    | _ => none

def doubles (tag : Nat) (f : Fields) : List Double :=
  (f.list tag).filterMap fun
    | .double x => some x
    | _ => none

def entries (tag : Nat) (f : Fields) : KeyMap Datum :=
  match f.get? tag with
  | some (.map entries) => entries
  | _ => []

def floatEntries (tag : Nat) (f : Fields) : KeyMap Single :=
  (f.entries tag).filterMap fun
    | (name, .float x) => some (name, x)
    | _ => none

def bytesEntries (tag : Nat) (f : Fields) : KeyMap Bytes :=
  (f.entries tag).filterMap fun
    | (name, .bytes b) => some (name, b)
    | _ => none

end Fields

/-! ### Vectors and targets -/

def WeightForTarget.ofFields (f : Fields) : WeightForTarget := ⟨f.string 1, f.float 2⟩

def Targets.ofFields (f : Fields) : Targets :=
  { targetVectors := f.strings 1
    combination := f.int32 2
    weights := f.floatEntries 3
    weightsForTargets := (f.messages 4).map .ofFields }

def VectorForTarget.ofFields (f : Fields) : VectorForTarget :=
  { name := f.string 1, vectorBytes := f.bytes 2, vectors := (f.messages 3).map .ofFields }

/-! ### Filters -/

mutual

def FilterTarget.ofField? : Nat → Datum → Option FilterTarget
  | 1, .string name => some (.property name)
  | 2, .message f => (targetInside? f).map (.singleTarget (Fields.string 1 f) ·)
  | 3, .message f => (targetInside? f).map (.multiTarget (Fields.string 1 f) · (Fields.string 3 f))
  | 4, .message f => some (.count (Fields.string 1 f))
  | _, _ => none

/-- The only field of a target says what it is. -/
def FilterTarget.ofFields? : List (Nat × Datum) → Option FilterTarget
  | [] => none
  | (tag, d) :: _ => FilterTarget.ofField? tag d

/-- The target that a reference leads to. -/
def targetInside? : List (Nat × Datum) → Option FilterTarget
  | [] => none
  | (tag, d) :: rest => if tag = 2 then FilterTarget.ofMessage? d else targetInside? rest

def FilterTarget.ofMessage? : Datum → Option FilterTarget
  | .message f => FilterTarget.ofFields? f
  | _ => none

end

def GeoCoordinatesFilter.ofFields (f : Fields) : GeoCoordinatesFilter :=
  ⟨f.float 1, f.float 2, f.float 3⟩

def TestValue.ofField? : Nat → Datum → Option TestValue
  | 4, .string s => some (.text s)
  | 5, .int64 n => some (.int n)
  | 6, .bool b => some (.boolean b)
  | 7, .double x => some (.number x)
  | 9, .message f => some (.textArray (Fields.strings 1 f))
  | 10, .message f => some (.intArray (Fields.int64s 1 f))
  | 11, .message f => some (.booleanArray (boolsOfFields f))
  | 12, .message f => some (.numberArray (Fields.doubles 1 f))
  | 13, .message f => some (.geo (.ofFields f))
  | _, _ => none

def TestValue.ofFields? (f : Fields) : Option TestValue :=
  f.findSome? fun (tag, d) => TestValue.ofField? tag d

/-- A filter of its fields, with the filters inside of it. -/
def Filters.assemble (f : Fields) (filters : List Filters) : Filters :=
  { operator := f.int32 1
    filters
    testValue := TestValue.ofFields? f
    target := (f.message? 20).bind FilterTarget.ofFields? }

mutual

def filtersInside : List (Nat × Datum) → List Filters
  | [] => []
  | (tag, d) :: rest => if tag = 3 then filtersOfList d else filtersInside rest

def filtersOfList : Datum → List Filters
  | .list ds => filtersOfMessages ds
  | _ => []

def filtersOfMessages : List Datum → List Filters
  | [] => []
  | .message f :: rest => .assemble f (filtersInside f) :: filtersOfMessages rest
  | _ :: rest => filtersOfMessages rest

end

def Filters.ofFields (f : Fields) : Filters := .assemble f (filtersInside f)

/-! ### Selections -/

def MetadataRequest.ofFields (f : Fields) : MetadataRequest :=
  { uuid := f.bool 1
    vector := f.bool 2
    creationTimeUnix := f.bool 3
    lastUpdateTimeUnix := f.bool 4
    distance := f.bool 5
    certainty := f.bool 6
    score := f.bool 7
    explainScore := f.bool 8
    isConsistent := f.bool 9
    vectors := f.strings 10 }

mutual

/-- The objects of a selection are in the same field wherever they are selected. -/
def objectsInside : List (Nat × Datum) → List ObjectPropertiesRequest
  | [] => []
  | (tag, d) :: rest => if tag = 3 then objectRequestsOfList d else objectsInside rest

def objectRequestsOfList : Datum → List ObjectPropertiesRequest
  | .list ds => objectRequestsOfMessages ds
  | _ => []

def objectRequestsOfMessages : List Datum → List ObjectPropertiesRequest
  | [] => []
  | .message f :: rest =>
    ⟨Fields.string 1 f, Fields.strings 2 f, objectsInside f⟩ :: objectRequestsOfMessages rest
  | _ :: rest => objectRequestsOfMessages rest

end

/-- A selection of its fields, with the references inside of it. -/
def PropertiesRequest.assemble (f : Fields) (references : List RefPropertiesRequest) :
    PropertiesRequest :=
  { nonRefProperties := f.strings 1
    refProperties := references
    objectProperties := objectsInside f
    returnAllNonrefProperties := f.bool 11 }

mutual

def referencesInside : List (Nat × Datum) → List RefPropertiesRequest
  | [] => []
  | (tag, d) :: rest => if tag = 2 then referenceRequestsOfList d else referencesInside rest

def referenceRequestsOfList : Datum → List RefPropertiesRequest
  | .list ds => referenceRequestsOfMessages ds
  | _ => []

def referenceRequestsOfMessages : List Datum → List RefPropertiesRequest
  | [] => []
  | .message f :: rest =>
    { referenceProperty := Fields.string 1 f
      properties := selectionInside f
      metadata := .ofFields ((Fields.message? 3 f).getD [])
      targetCollection := Fields.string 4 f } :: referenceRequestsOfMessages rest
  | _ :: rest => referenceRequestsOfMessages rest

/-- The selection that goes with a reference. -/
def selectionInside : List (Nat × Datum) → PropertiesRequest
  | [] => .assemble [] []
  | (tag, d) :: rest => if tag = 2 then PropertiesRequest.ofMessage d else selectionInside rest

def PropertiesRequest.ofMessage : Datum → PropertiesRequest
  | .message f => .assemble f (referencesInside f)
  | _ => .assemble [] []

end

def PropertiesRequest.ofFields (f : Fields) : PropertiesRequest := .assemble f (referencesInside f)

/-! ### Searches -/

def GroupBy.ofFields (f : Fields) : GroupBy := ⟨f.strings 1, f.int32 2, f.int32 3⟩

def SortBy.ofFields (f : Fields) : SortBy := ⟨f.bool 1, f.strings 2⟩

def GenerativeSearch.ofFields (f : Fields) : GenerativeSearch :=
  ⟨f.string 1, f.string 2, f.strings 3⟩

def Rerank.ofFields (f : Fields) : Rerank := ⟨f.string 1, f.string? 2⟩

def SearchOperatorOptions.ofFields (f : Fields) : SearchOperatorOptions := ⟨f.int32 1, f.int32? 2⟩

def Bm25.ofFields (f : Fields) : Bm25 :=
  ⟨f.string 1, f.strings 2, (f.message? 3).map .ofFields⟩

def NearVector.ofFields (f : Fields) : NearVector :=
  { vector := f.floats 1
    certainty := f.double? 2
    distance := f.double? 3
    vectorBytes := f.bytes 4
    targetVectors := f.strings 5
    targets := (f.message? 6).map .ofFields
    vectorPerTarget := f.bytesEntries 7
    vectorForTargets := (f.messages 8).map .ofFields
    vectors := (f.messages 9).map .ofFields }

def NearObject.ofFields (f : Fields) : NearObject :=
  { id := f.string 1
    certainty := f.double? 2
    distance := f.double? 3
    targetVectors := f.strings 4
    targets := (f.message? 5).map .ofFields }

def Move.ofFields (f : Fields) : Move := ⟨f.float 1, f.strings 2, f.strings 3⟩

def NearText.ofFields (f : Fields) : NearText :=
  { query := f.strings 1
    certainty := f.double? 2
    distance := f.double? 3
    moveTo := (f.message? 4).map .ofFields
    moveAway := (f.message? 5).map .ofFields
    targetVectors := f.strings 6
    targets := (f.message? 7).map .ofFields }

def NearMedia.ofFields (f : Fields) : NearMedia :=
  { content := f.string 1
    certainty := f.double? 2
    distance := f.double? 3
    targetVectors := f.strings 4
    targets := (f.message? 5).map .ofFields }

def Hybrid.ofFields (f : Fields) : Hybrid :=
  { query := f.string 1
    properties := f.strings 2
    vector := f.floats 3
    alpha := f.float 4
    fusionType := f.int32 5
    vectorBytes := f.bytes 6
    targetVectors := f.strings 7
    nearText := (f.message? 8).map .ofFields
    nearVector := (f.message? 9).map .ofFields
    targets := (f.message? 10).map .ofFields
    bm25SearchOperator := (f.message? 11).map .ofFields
    vectorDistance := f.float? 20 }

def SearchRequest.ofFields (f : Fields) : SearchRequest :=
  { collection := f.string 1
    tenant := f.string 10
    consistencyLevel := f.int32? 11
    properties := (f.message? 20).map .ofFields
    metadata := (f.message? 21).map .ofFields
    groupBy := (f.message? 22).map .ofFields
    limit := f.uint32 30
    offset := f.uint32 31
    autocut := f.uint32 32
    after := f.string 33
    sortBy := (f.messages 34).map .ofFields
    filters := (f.message? 40).map .ofFields
    hybridSearch := (f.message? 41).map .ofFields
    bm25Search := (f.message? 42).map .ofFields
    nearVector := (f.message? 43).map .ofFields
    nearObject := (f.message? 44).map .ofFields
    nearText := (f.message? 45).map .ofFields
    nearImage := (f.message? 46).map .ofFields
    nearAudio := (f.message? 47).map .ofFields
    nearVideo := (f.message? 48).map .ofFields
    nearDepth := (f.message? 49).map .ofFields
    nearThermal := (f.message? 50).map .ofFields
    nearImu := (f.message? 51).map .ofFields
    generative := (f.message? 60).map .ofFields
    rerank := (f.message? 61).map .ofFields
    uses123Api := f.bool 100
    uses125Api := f.bool 101
    uses127Api := f.bool 102 }

/-! ### Batches -/

def BatchRequest.ofFields (f : Fields) : BatchRequest :=
  { objects := (f.messages 1).map .ofFields, consistencyLevel := f.int32? 2 }

namespace Incoming

instance : Incoming SearchRequest := ⟨.searchRequest, SearchRequest.ofFields⟩
instance : Incoming BatchRequest := ⟨.batchObjectsRequest, BatchRequest.ofFields⟩

end Incoming

end VectorClient.Wire
